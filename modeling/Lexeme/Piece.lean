import Lexeme.Munch
import Lexeme.Span

/-!
# Pieces of a source

A source text as a sequence of pieces: tokens, skipped separators, characters outside every class,
and at most one string that is still open at the end. The pieces in order make up the whole text,
so the place of each is known from the widths of those before it. A scan goes through them without
making the list of them (`fold_eq_foldl`).
-/

set_option autoImplicit false
set_option relaxedAutoImplicit false

namespace Lexeme

/-- A part of a source text that the scan passes in one step. An open string keeps its quote. -/
inductive Piece where
  | token (token : Token)
  | separator (c : Char)
  | stray (c : Char)
  | openString (text : List Char)
  deriving Repr, DecidableEq

namespace Piece

/-- The characters of the piece as they stand in the source. -/
def text : Piece → List Char
  | token t => t.lexeme
  | separator c => [c]
  | stray c => [c]
  | openString cs => cs

/-- Bytes that the piece takes in the source. -/
def width : Piece → Nat
  | token t => t.width
  | separator c => c.utf8Size
  | stray c => c.utf8Size
  | openString cs => Text.byteWidth cs

theorem width_eq (piece : Piece) : piece.width = Text.byteWidth piece.text := by
  cases piece with
  | token t =>
    rcases t with ⟨kind, body⟩
    cases kind <;> simp [width, Token.width, text, Token.lexeme, Char.utf8Size]
    omega
  | _ => simp [width, text]

/-- The piece that starts with the character `c` before the text `cs`, and what follows the piece. -/
def next (c : Char) (cs : List Char) : Piece × List Char :=
  match CharClass.of c with
  | .digit => (Munch.number (c :: cs)).map token id
  | .letter => (Munch.word (c :: cs)).map token id
  | .quote =>
    match Munch.string? (c :: cs) with
    | some result => result.map token id
    | none => (openString (c :: cs), [])
  | .operator => (Munch.operator (c :: cs)).map token id
  | .delimiter => (Munch.delimiter (c :: cs)).map token id
  | .whitespace => (separator c, cs)
  | .other => (stray c, cs)

theorem length_dropWhile_le (keep : Char → Bool) (cs : List Char) :
    (cs.dropWhile keep).length ≤ cs.length := by
  induction cs with
  | nil => exact Nat.le_refl _
  | cons c cs ih =>
    rw [List.dropWhile_cons]
    split
    · exact Nat.le_succ_of_le ih
    · exact Nat.le_refl _

/-- A piece takes at least its first character. -/
theorem length_next_le (c : Char) (cs : List Char) : (next c cs).2.length ≤ cs.length := by
  rw [next]
  split
  · next h =>
    have digit : Text.isDecimalDigit c = true := by
      by_cases digit : Text.isDecimalDigit c = true
      · exact digit
      · rw [CharClass.of, if_neg digit] at h
        repeat' split at h
        all_goals cases h
    simpa [Munch.number, Munch.run_eq, List.dropWhile_cons, digit] using length_dropWhile_le _ cs
  · simpa [Munch.word, Munch.run_eq] using length_dropWhile_le _ cs
  · split
    · next result h =>
      have tail := length_dropWhile_le (· != '"') cs
      simp only [Munch.string?, Munch.run_eq, List.drop_one, List.tail_cons] at h
      split at h
      · cases h
      · next rest heq =>
        cases h
        rw [(Prod.mk.inj heq).2] at tail
        exact Nat.le_of_succ_le tail
    · exact Nat.zero_le _
  · cases cs with
    | nil => exact Nat.zero_le _
    | cons d cs =>
      simp only [Munch.operator, Prod.map]
      split <;> simp
  · exact Nat.le_refl _
  · exact Nat.le_refl _
  · exact Nat.le_refl _

/-- The pieces of a text with their places, when the first one starts at `offset`. -/
def located (offset : Nat) : List Char → List (Spanned Piece)
  | [] => []
  | c :: cs =>
    let stop := offset + (next c cs).1.width
    ⟨(next c cs).1, offset, stop⟩ :: located stop (next c cs).2
termination_by cs => cs.length
decreasing_by exact Nat.lt_succ_of_le (length_next_le c cs)

/-- Goes through the pieces of a text in order, each with its place, when the first one starts at
`offset`. -/
@[specialize] def fold {σ : Type} (step : σ → Spanned Piece → σ) (state : σ) (offset : Nat) :
    List Char → σ
  | [] => state
  | c :: cs =>
    let found := next c cs
    let stop := offset + found.1.width
    fold step (step state ⟨found.1, offset, stop⟩) stop found.2
termination_by cs => cs.length
decreasing_by exact Nat.lt_succ_of_le (length_next_le c cs)

/-- Going through the pieces of a text is going through the list of them. -/
theorem fold_eq_foldl {σ : Type} (step : σ → Spanned Piece → σ) (state : σ) (offset : Nat)
    (cs : List Char) : fold step state offset cs = (located offset cs).foldl step state := by
  fun_induction fold step state offset cs with
  | case1 => rw [located, List.foldl_nil]
  | case2 state offset c cs found stop ih => rw [located, List.foldl_cons, ih]

/-- The pieces of a source text with their places in it. -/
def ofSource (source : String) : List (Spanned Piece) :=
  located 0 source.toList

/-- What is found now, if anything, before what was found earlier. -/
def consSome {α : Type} (found : List α) : Option α → List α
  | some value => value :: found
  | none => found

theorem foldl_consSome {α : Type} (pick : Spanned Piece → Option α) (found : List α)
    (pieces : List (Spanned Piece)) :
    pieces.foldl (fun found piece ↦ consSome found (pick piece)) found =
      (pieces.filterMap pick).reverse ++ found := by
  induction pieces generalizing found with
  | nil => rfl
  | cons piece pieces ih =>
    rw [List.foldl_cons, ih, List.filterMap_cons]
    cases pick piece <;> simp [consSome]

end Piece

end Lexeme
