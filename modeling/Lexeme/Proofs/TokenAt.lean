import Lexeme.Proofs.Cuts
import Lexeme.Proofs.MaximalMunch
import Lexeme.TokenAt

/-!
# Tokens read at offsets

The functions that read a token at an offset of a source do what those that read it at the front of
a text do, when the text is what follows from the offset on (`Text.Follows`). They return the same
token, and the offset they return is the one from which the rest follows (`TokenAt.Agrees`). In
particular they meet no fault: every slice they take lies between characters of the source
(`TokenAt.isOk_slice_iff`). For a character that starts a token of a kind this holds whatever the
kind is (`TokenAt.ofKind?_agrees`).
-/

set_option autoImplicit false
set_option relaxedAutoImplicit false

namespace Lexeme

open Text (isDecimalDigit byteWidth Follows)

/-- What meets no fault hands its value on. -/
theorem bind_of_eq_ok {α β : Type} {found : Except OffsetFault α} {value : α}
    (hfound : found = .ok value) (more : α → Except OffsetFault β) :
    (found >>= more) = more value := by
  rw [hfound]
  rfl

namespace TokenAt

/-! ### Offsets -/

/-- The character that is found is the first one behind a run of characters that fail the test. -/
theorem find?_eq (test : Char → Bool) (offset : Nat) (cs : List Char) :
    find? test offset cs =
      (cs.dropWhile (!test ·)).head?.map fun _ ↦ offset + byteWidth (cs.takeWhile (!test ·)) := by
  induction cs generalizing offset with
  | nil => rfl
  | cons c cs ih => by_cases htest : test c <;> simp [find?, htest, ih, Nat.add_assoc]

/-- A slice of a source meets a fault unless both its ends lie between characters of it, in
order. -/
theorem isOk_slice_iff (source : String) (first last : Nat) :
    (slice source first last).isOk ↔
      first ≤ last ∧ String.Pos.Raw.IsValid source ⟨first⟩ ∧
        String.Pos.Raw.IsValid source ⟨last⟩ := by
  rw [← Text.isSome_slice?_iff, slice]
  cases Text.slice? first last source.toList <;> simp [Except.isOk, Except.toBool]

section Source

variable {source : String} {start : Nat} {rest : List Char}

theorem slice_append {part : List Char} (hat : Follows source start (part ++ rest)) :
    slice source start (start + byteWidth part) = .ok part := by
  rw [slice, hat.slice?]

theorem sliceFrom_eq (hat : Follows source start rest) : sliceFrom source start = .ok rest := by
  rw [sliceFrom, slice, hat.slice?_size]

/-- A run stops behind the longest leading part of the text whose characters all pass. -/
theorem runEnd_eq (hat : Follows source start rest) (keep : Char → Bool) :
    runEnd source start keep = .ok (start + byteWidth (rest.takeWhile keep)) := by
  have hsplit := List.takeWhile_append_dropWhile (p := keep) (l := rest)
  rw [runEnd, bind_of_eq_ok (sliceFrom_eq hat), find?_eq, ← hat.add_byteWidth]
  simp only [Bool.not_not]
  cases hrest : rest.dropWhile keep with
  | nil =>
    rw [hrest, List.append_nil] at hsplit
    rw [hsplit]
    rfl
  | cons c cs => rfl

/-! ### Tokens -/

/-- What is read at an offset is what is taken from the front of a text: the token is the same, and
from the offset returned follows what is left of the text. -/
def Agrees (source : String) (found : Except OffsetFault (Token × Nat))
    (taken : Token × List Char) : Prop :=
  ∃ stop, found = .ok (taken.1, stop) ∧ Follows source stop taken.2

/-- The offset that is returned is the one behind the part of the text that is taken. -/
theorem Agrees.found_eq {found : Except OffsetFault (Token × Nat)} {token : Token}
    (hagrees : Agrees source found (token, rest)) (part : List Char)
    (hat : Follows source start (part ++ rest)) :
    found = .ok (token, start + byteWidth part) := by
  obtain ⟨stop, hfound, hstop⟩ := hagrees
  rw [hfound, hstop.offset_eq hat.advance]

/-- The token between an offset and the end of a part of what follows has the text of the part. -/
theorem between_agrees (kind : TokenKind) {text : String} {stop : Nat}
    (hat : Follows source start (text.toList ++ rest))
    (hstop : stop = start + byteWidth text.toList) :
    Agrees source (between kind source start stop) (⟨kind, text⟩, rest) := by
  subst hstop
  refine ⟨start + byteWidth text.toList, ?_, hat.advance⟩
  rw [between, bind_of_eq_ok (slice_append hat), String.ofList_toList]
  rfl

/-- The token of no characters. -/
theorem between_self_agrees (kind : TokenKind) (hat : Follows source start rest) :
    Agrees source (between kind source start start) (⟨kind, ""⟩, rest) :=
  between_agrees kind hat rfl

/-- The token of the next character. -/
theorem between_single_agrees (kind : TokenKind) {c : Char}
    (hat : Follows source start (c :: rest)) :
    Agrees source (between kind source start (start + c.utf8Size))
      (⟨kind, String.singleton c⟩, rest) :=
  between_agrees kind (by simpa using hat) (by simp)

theorem number_agrees (hat : Follows source start rest) :
    Agrees source (number source start) (Munch.number rest) := by
  rw [number, bind_of_eq_ok (runEnd_eq hat isDecimalDigit), Munch.number, Munch.run_eq,
    String.empty_append]
  refine between_agrees .number ?_ (by simp)
  rwa [String.toList_ofList, id, List.takeWhile_append_dropWhile]

theorem word_agrees (hat : Follows source start rest) :
    Agrees source (word source start) (Munch.word rest) := by
  rw [word, bind_of_eq_ok (sliceFrom_eq hat)]
  cases rest with
  | nil =>
    rw [firstWidth, Nat.add_zero, bind_of_eq_ok (runEnd_eq hat isWordContinue)]
    exact between_self_agrees .word hat
  | cons c cs =>
    rw [firstWidth, bind_of_eq_ok (runEnd_eq hat.advance_cons isWordContinue), Munch.word,
      Munch.run_eq]
    refine between_agrees .word ?_ (by simp [Nat.add_assoc])
    simpa [List.takeWhile_append_dropWhile] using hat

theorem delimiter_agrees (hat : Follows source start rest) :
    Agrees source (delimiter source start) (Munch.delimiter rest) := by
  rw [delimiter, bind_of_eq_ok (sliceFrom_eq hat)]
  cases rest with
  | nil => exact between_self_agrees .delimiter hat
  | cons c cs => exact between_single_agrees .delimiter hat

/-- The window of two characters is cut out whatever the second character is. -/
theorem operator_agrees (hat : Follows source start rest) :
    Agrees source (operator source start) (Munch.operator rest) := by
  rw [operator, bind_of_eq_ok (sliceFrom_eq hat)]
  match rest, hat with
  | [], hat => exact between_self_agrees .operator hat
  | [c], hat => exact between_single_agrees .operator hat
  | c :: d :: cs, hat =>
    have hpair : Agrees source
        (between .operator source start (start + c.utf8Size + d.utf8Size))
        (⟨.operator, (String.singleton c).push d⟩, cs) :=
      between_agrees .operator (by simpa using hat) (by simp [Nat.add_assoc])
    obtain ⟨stop, hfound, hstop⟩ := hpair
    simp only [pairEnd?, bind_of_eq_ok hfound, Munch.operator]
    split_ifs
    · exact ⟨stop, rfl, hstop⟩
    · exact between_single_agrees .operator hat

/-- The same where there need not be a token: either both find none, or what they find agrees. -/
def Agrees? (source : String) (found : Except OffsetFault (Option (Token × Nat))) :
    Option (Token × List Char) → Prop
  | none => found = .ok none
  | some taken => ∃ stop, found = .ok (some (taken.1, stop)) ∧ Follows source stop taken.2

theorem Agrees.map_some {found : Except OffsetFault (Token × Nat)} {taken : Token × List Char}
    (hagrees : Agrees source found taken) : Agrees? source (some <$> found) (some taken) := by
  obtain ⟨stop, rfl, hstop⟩ := hagrees
  exact ⟨stop, rfl, hstop⟩

/-- Behind a quote the text up to the next quote is read, unless there is no next one. -/
theorem string?_agrees {body : List Char} (hat : Follows source start ('"' :: body)) :
    Agrees? source (string? source start) (Munch.string? ('"' :: body)) := by
  have hbody := hat.advance_cons
  obtain ⟨kept, rest, rfl, hkept, hstop⟩ := Munch.exists_run (· != '"') body
  have hquote : '"' ∉ kept := fun hmem ↦ by simpa using hkept '"' hmem
  have hfind := find?_eq (· == '"') (start + Char.utf8Size '"') (kept ++ rest)
  rw [List.takeWhile_append_of_pos (by simpa using hkept),
    List.dropWhile_append_of_pos (by simpa using hkept)] at hfind
  rw [string?, bind_of_eq_ok (sliceFrom_eq hbody), hfind]
  cases rest with
  | nil =>
    rw [List.append_nil, Munch.string?_eq_none hquote]
    rfl
  | cons d rest =>
    obtain rfl : d = '"' := by simpa using hstop d rfl
    rw [Munch.string?_append hquote]
    refine ⟨_, ?_, hbody.advance.advance_cons⟩
    simp only [beq_self_eq_true, Bool.not_true, List.takeWhile_cons, List.dropWhile_cons,
      List.head?_cons, Option.map_some, List.append_nil, Bool.false_eq_true, if_false]
    rw [bind_of_eq_ok (slice_append hbody)]
    rfl

end Source

end TokenAt

/-! ### Tokens of every kind -/

/-- Before a character that starts a token of a kind the next piece is that token, or the string
that is never closed. -/
theorem Piece.next_of_startClass {kind : TokenKind} {c : Char} (cs : List Char)
    (hclass : CharClass.of c = kind.startClass) :
    next c cs = match Munch.ofKind? kind (c :: cs) with
      | some taken => taken.map token id
      | none => (openString (c :: cs), []) := by
  cases kind with
  | string =>
    rw [next, hclass]
    cases hstring : Munch.string? (c :: cs) <;> simp [TokenKind.startClass, Munch.ofKind?, hstring]
  | _ =>
    rw [next, hclass]
    rfl

/-- A reader agrees with the one that takes the token from the front of the text, as long as the
reader of strings is called at a quote. -/
theorem TokenAt.ofKind?_agrees_of_quote {kind : TokenKind} {source : String} {start : Nat}
    {c : Char} {cs : List Char} (hquote : kind = .string → c = '"')
    (hat : Follows source start (c :: cs)) :
    Agrees? source (ofKind? kind source start) (Munch.ofKind? kind (c :: cs)) := by
  cases kind with
  | number => exact (number_agrees hat).map_some
  | word => exact (word_agrees hat).map_some
  | string =>
    obtain rfl := hquote rfl
    exact string?_agrees hat
  | operator => exact (operator_agrees hat).map_some
  | delimiter => exact (delimiter_agrees hat).map_some

/-- A reader that is called for a character of its own class agrees with the one that takes the
token from the front of the text. -/
theorem TokenAt.ofKind?_agrees {kind : TokenKind} {source : String} {start : Nat} {c : Char}
    {cs : List Char} (hclass : CharClass.of c = kind.startClass)
    (hat : Follows source start (c :: cs)) :
    Agrees? source (ofKind? kind source start) (Munch.ofKind? kind (c :: cs)) := by
  refine ofKind?_agrees_of_quote (fun hkind ↦ ?_) hat
  rw [hkind] at hclass
  exact (CharClass.of_eq_quote_iff c).mp hclass

end Lexeme
