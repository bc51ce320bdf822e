import Lexeme.Piece
import Lexeme.Proofs.CharClass
import Mathlib.Data.List.TakeWhile

/-!
# Maximal munch

What a scan takes from the front of a text, said without the scan. A piece is well formed when its
text could be taken by itself: a token when its text is a lexeme of its kind
(`TokenKind.IsLexeme`). A piece ends before a text when that text does not continue it
(`Piece.EndsBefore`). Every text that is not empty starts with a well-formed piece that ends before
the rest (`Piece.exists_piece`), and no other piece is taken (`Piece.next_eq_of_endsBefore`), so
that the two conditions determine the scan (`Piece.next_eq_iff`).
-/

set_option autoImplicit false
set_option relaxedAutoImplicit false

namespace Lexeme

open Text (isDecimalDigit isLetter)

/-! ### Lexemes -/

/-- Characters that make the text of a token of a kind. -/
def TokenKind.IsLexeme : TokenKind → List Char → Prop
  | .number, cs => cs ≠ [] ∧ ∀ c ∈ cs, isDecimalDigit c = true
  | .word, [] => False
  | .word, c :: cs => isLetter c = true ∧ ∀ d ∈ cs, isWordContinue d = true
  | .string, cs => '"' ∉ cs
  | .operator, cs => (∃ c ∈ operatorChars, cs = [c]) ∨ ∃ pair ∈ pairOperators, cs = pair.toList
  | .delimiter, cs => ∃ c ∈ delimiterChars, cs = [c]

/-- Whether characters make the text of a token of a kind. -/
def TokenKind.isLexeme : TokenKind → List Char → Bool
  | .number, cs => !cs.isEmpty && cs.all isDecimalDigit
  | .word, [] => false
  | .word, c :: cs => isLetter c && cs.all isWordContinue
  | .string, cs => !cs.contains '"'
  | .operator, cs =>
    operatorChars.any (fun c ↦ cs == [c]) || pairOperators.any (fun pair ↦ cs == pair.toList)
  | .delimiter, cs => delimiterChars.any (fun c ↦ cs == [c])

theorem TokenKind.isLexeme_eq_true_iff (kind : TokenKind) (cs : List Char) :
    kind.isLexeme cs = true ↔ kind.IsLexeme cs := by
  cases kind with
  | number => simp [isLexeme, IsLexeme]
  | word => cases cs <;> simp [isLexeme, IsLexeme]
  | string => simp [isLexeme, IsLexeme]
  | operator => simp [isLexeme, IsLexeme]
  | delimiter => simp [isLexeme, IsLexeme]

instance TokenKind.decidableIsLexeme (kind : TokenKind) (cs : List Char) :
    Decidable (kind.IsLexeme cs) :=
  decidable_of_iff _ (kind.isLexeme_eq_true_iff cs)

/-- The text of the token is a lexeme of its kind. -/
def Token.WellFormed (token : Token) : Prop :=
  token.kind.IsLexeme token.text.toList

instance : DecidablePred Token.WellFormed :=
  fun token ↦ token.kind.decidableIsLexeme token.text.toList

/-- The class of the characters that start a token of a kind, quotes included. -/
def TokenKind.startClass : TokenKind → CharClass
  | .number => .digit
  | .word => .letter
  | .string => .quote
  | .operator => .operator
  | .delimiter => .delimiter

/-- A class starts the tokens of a kind, or its characters stand between tokens. -/
theorem CharClass.startClass_or_gap (cls : CharClass) :
    (∃ kind : TokenKind, cls = kind.startClass) ∨ cls = whitespace ∨ cls = other := by
  cases cls with
  | digit => exact Or.inl ⟨.number, rfl⟩
  | letter => exact Or.inl ⟨.word, rfl⟩
  | quote => exact Or.inl ⟨.string, rfl⟩
  | operator => exact Or.inl ⟨.operator, rfl⟩
  | delimiter => exact Or.inl ⟨.delimiter, rfl⟩
  | whitespace => exact Or.inr (Or.inl rfl)
  | other => exact Or.inr (Or.inr rfl)

theorem exists_of_mem_pairOperators :
    ∀ pair ∈ pairOperators, ∃ c ∈ operatorChars, ∃ d ∈ operatorChars, pair.toList = [c, d] := by
  have hall : pairOperators.all (fun pair ↦ operatorChars.any fun c ↦ operatorChars.any fun d ↦
      pair.toList == [c, d]) = true := by decide +kernel
  simpa only [List.all_eq_true, List.any_eq_true, beq_iff_eq] using hall

/-- A well-formed token starts with a character of the class of its kind. -/
theorem Token.WellFormed.exists_cons {token : Token} (htoken : token.WellFormed) :
    ∃ c cs, token.lexeme = c :: cs ∧ CharClass.of c = token.kind.startClass := by
  obtain ⟨kind, text⟩ := token
  cases kind with
  | number =>
    obtain ⟨hne, hdigits⟩ := htoken
    obtain ⟨c, cs, htext⟩ := List.exists_cons_of_ne_nil hne
    refine ⟨c, cs, htext, (CharClass.of_eq_digit_iff c).mpr (hdigits c ?_)⟩
    rw [htext]
    exact List.mem_cons_self
  | word =>
    unfold Token.WellFormed at htoken
    cases htext : text.toList with
    | nil => simp [htext, TokenKind.IsLexeme] at htoken
    | cons c cs =>
      simp only [htext, TokenKind.IsLexeme] at htoken
      exact ⟨c, cs, htext, (CharClass.of_eq_letter_iff c).mpr htoken.1⟩
  | string => exact ⟨'"', text.toList ++ ['"'], rfl, CharClass.of_quote⟩
  | operator =>
    rcases htoken with ⟨c, hc, htext⟩ | ⟨pair, hpair, htext⟩
    · exact ⟨c, [], htext, CharClass.of_operatorChars c hc⟩
    · obtain ⟨c, hc, d, hd, heq⟩ := exists_of_mem_pairOperators pair hpair
      exact ⟨c, [d], htext.trans heq, CharClass.of_operatorChars c hc⟩
  | delimiter =>
    obtain ⟨c, hc, htext⟩ := htoken
    exact ⟨c, [], htext, CharClass.of_delimiterChars c hc⟩

/-! ### Where a token ends -/

/-- Two characters that make an operator together. -/
def completesPair (first second : Char) : Bool :=
  isPairOperator ((String.singleton first).push second)

theorem exists_pair_of_completesPair {first second : Char}
    (hpair : completesPair first second = true) :
    ∃ pair ∈ pairOperators, [first, second] = pair.toList := by
  refine ⟨_, List.contains_iff_mem.mp hpair, ?_⟩
  simp

/-- What completes an operator is itself an operator. -/
theorem completesPair_second {first second : Char} (hpair : completesPair first second = true) :
    CharClass.of second = .operator := by
  obtain ⟨pair, hmem, htext⟩ := exists_pair_of_completesPair hpair
  obtain ⟨c, _, d, hd, heq⟩ := exists_of_mem_pairOperators pair hmem
  rw [heq, List.cons.injEq, List.cons.injEq] at htext
  rw [htext.2.1]
  exact CharClass.of_operatorChars d hd

/-- The character that comes next, if any, does not continue the token. -/
def Token.EndsBefore (token : Token) (next : Option Char) : Prop :=
  match token.kind with
  | .number => ∀ c ∈ next, isDecimalDigit c = false
  | .word => ∀ c ∈ next, isWordContinue c = false
  | .string => True
  | .operator => ∀ c ∈ next, ∀ first, token.text.toList = [first] →
      completesPair first c = false
  | .delimiter => True

/-- Nothing continues a token at the end of a source. -/
theorem Token.endsBefore_none (token : Token) : token.EndsBefore none := by
  unfold Token.EndsBefore
  split <;> simp

namespace Piece

/-- The piece could be taken from a text: its characters are of the class that leads to it. -/
def WellFormed : Piece → Prop
  | token t => t.WellFormed
  | separator c => CharClass.of c = .whitespace
  | stray c => CharClass.of c = .other
  | openString cs => ∃ body, cs = '"' :: body ∧ '"' ∉ body

/-- The text that follows does not continue the piece. Nothing follows an open string. -/
def EndsBefore : Piece → List Char → Prop
  | token t, rest => t.EndsBefore rest.head?
  | separator _, _ => True
  | stray _, _ => True
  | openString _, rest => rest = []

/-- A well-formed piece has at least one character. -/
theorem WellFormed.text_ne_nil {piece : Piece} (hpiece : piece.WellFormed) : piece.text ≠ [] := by
  cases piece with
  | token t =>
    obtain ⟨c, cs, hlexeme, _⟩ := Token.WellFormed.exists_cons hpiece
    simp [text, hlexeme]
  | separator c => simp [text]
  | stray c => simp [text]
  | openString cs =>
    obtain ⟨body, rfl, _⟩ := hpiece
    simp [text]

/-- Every piece ends where the source ends. -/
theorem endsBefore_nil (piece : Piece) : piece.EndsBefore [] := by
  cases piece with
  | token t => exact t.endsBefore_none
  | separator c => trivial
  | stray c => trivial
  | openString cs => rfl

/-- What stands further behind a piece does not matter to it. -/
theorem EndsBefore.append {piece : Piece} {rest : List Char} (hends : piece.EndsBefore rest)
    (hne : rest ≠ []) (more : List Char) : piece.EndsBefore (rest ++ more) := by
  cases piece with
  | token t =>
    obtain ⟨c, cs, rfl⟩ := List.exists_cons_of_ne_nil hne
    exact hends
  | separator c => trivial
  | stray c => trivial
  | openString cs => exact absurd hends hne

/-- A piece that ends before a text ends before every beginning of that text. -/
theorem EndsBefore.of_append {piece : Piece} {rest more : List Char}
    (hends : piece.EndsBefore (rest ++ more)) : piece.EndsBefore rest := by
  cases rest with
  | nil => exact piece.endsBefore_nil
  | cons c cs =>
    cases piece with
    | token t => exact hends
    | separator c => trivial
    | stray c => trivial
    | openString cs => cases hends

end Piece

/-! ### The token at the front of a text -/

namespace Munch

/-- A run takes characters that pass and stops at one that does not. -/
theorem run_append {keep : Char → Bool} (passed : String) {kept rest : List Char}
    (hkept : ∀ c ∈ kept, keep c = true) (hstop : ∀ c ∈ rest.head?, keep c = false) :
    run keep passed (kept ++ rest) = (passed ++ String.ofList kept, rest) := by
  rw [run_eq, List.takeWhile_append_of_pos hkept, List.dropWhile_append_of_pos hkept]
  cases rest with
  | nil => simp
  | cons c cs =>
    have hc : keep c = false := hstop c rfl
    simp [hc]

/-- Every text starts with a run of characters that pass, which the rest does not continue. -/
theorem exists_run (keep : Char → Bool) (cs : List Char) :
    ∃ kept rest, cs = kept ++ rest ∧ (∀ c ∈ kept, keep c = true) ∧
      ∀ c ∈ rest.head?, keep c = false := by
  refine ⟨cs.takeWhile keep, cs.dropWhile keep, List.takeWhile_append_dropWhile.symm,
    fun c hc ↦ List.mem_takeWhile_imp hc, fun c hc ↦ ?_⟩
  have hhead := List.head?_dropWhile_not keep cs
  rw [Option.mem_def.mp hc] at hhead
  exact hhead

theorem number_append {digits rest : List Char} (hdigits : ∀ c ∈ digits, isDecimalDigit c = true)
    (hstop : ∀ c ∈ rest.head?, isDecimalDigit c = false) :
    number (digits ++ rest) = (⟨.number, String.ofList digits⟩, rest) := by
  simp [number, run_append "" hdigits hstop]

theorem word_append (c : Char) {cs rest : List Char}
    (hword : ∀ d ∈ cs, isWordContinue d = true)
    (hstop : ∀ d ∈ rest.head?, isWordContinue d = false) :
    word (c :: (cs ++ rest)) = (⟨.word, String.ofList (c :: cs)⟩, rest) := by
  simp [word, run_append (String.singleton c) hword hstop]

theorem bne_quote_of_mem {body : List Char} (hbody : '"' ∉ body) :
    ∀ c ∈ body, (c != '"') = true := by
  intro c hc
  rw [bne_iff_ne]
  rintro rfl
  exact hbody hc

theorem string?_append {body : List Char} (hbody : '"' ∉ body) (rest : List Char) :
    string? ('"' :: (body ++ '"' :: rest)) = some (⟨.string, String.ofList body⟩, rest) := by
  have hkeep := bne_quote_of_mem hbody
  have hstop : ∀ c ∈ ('"' :: rest).head?, (c != '"') = false := by simp
  simp [string?, run_append "" hkeep hstop]

theorem string?_eq_none {body : List Char} (hbody : '"' ∉ body) :
    string? ('"' :: body) = none := by
  have hstop : ∀ c ∈ ([] : List Char).head?, (c != '"') = false := by simp
  have hrun := run_append "" (bne_quote_of_mem hbody) hstop
  rw [List.append_nil] at hrun
  simp [string?, hrun]

theorem operator_pair {c d : Char} (hpair : completesPair c d = true) (rest : List Char) :
    operator (c :: d :: rest) = (⟨.operator, (String.singleton c).push d⟩, rest) := by
  rw [operator]
  exact if_pos hpair

theorem operator_single {c : Char} {rest : List Char}
    (hstop : ∀ d ∈ rest.head?, completesPair c d = false) :
    operator (c :: rest) = (⟨.operator, String.singleton c⟩, rest) := by
  cases rest with
  | nil => rfl
  | cons d rest =>
    rw [operator]
    exact if_neg (Bool.eq_false_iff.mp (hstop d rfl))

theorem operator_append {body : String} (hbody : TokenKind.operator.IsLexeme body.toList)
    {rest : List Char}
    (hstop : ∀ d ∈ rest.head?, ∀ c, body.toList = [c] → completesPair c d = false) :
    operator (body.toList ++ rest) = (⟨.operator, body⟩, rest) := by
  rcases hbody with ⟨c, _, hsingle⟩ | ⟨pair, hmem, hpair⟩
  · obtain rfl : body = String.singleton c := by
      rw [← String.toList_inj, hsingle, String.toList_singleton]
    rw [hsingle]
    exact operator_single fun d hd ↦ hstop d hd c hsingle
  · obtain rfl := String.toList_inj.mp hpair
    obtain ⟨c, _, d, _, htext⟩ := exists_of_mem_pairOperators body hmem
    obtain rfl : body = (String.singleton c).push d := by
      rw [← String.toList_inj, htext]
      simp
    rw [htext]
    exact operator_pair (List.contains_iff_mem.mpr hmem) rest

/-- The token of a kind at the front of a text. Only a string can be missing, when it is never
closed. -/
def ofKind? (kind : TokenKind) (cs : List Char) : Option (Token × List Char) :=
  match kind with
  | .number => some (number cs)
  | .word => some (word cs)
  | .string => string? cs
  | .operator => some (operator cs)
  | .delimiter => some (delimiter cs)

section OfKind

variable {kind : TokenKind} {c : Char} {cs : List Char}

/-- A token that is taken from the front of a text is the text up to the rest, and the rest does not
continue it. It is well formed if it is of the class of its first character. -/
theorem of_ofKind?_eq_some {token : Token} {rest : List Char} (hquote : kind = .string → c = '"')
    (htaken : ofKind? kind (c :: cs) = some (token, rest)) :
    c :: cs = token.lexeme ++ rest ∧ token.EndsBefore rest.head? ∧
      (CharClass.of c = kind.startClass → token.WellFormed) := by
  cases kind with
  | number =>
    obtain ⟨digits, after, hsplit, hdigits, hstop⟩ := exists_run isDecimalDigit (c :: cs)
    rw [ofKind?, hsplit, number_append hdigits hstop, Option.some.injEq, Prod.mk.injEq] at htaken
    obtain ⟨rfl, rfl⟩ := htaken
    refine ⟨by simpa [Token.lexeme] using hsplit, hstop, fun hclass ↦ ?_⟩
    simp only [Token.WellFormed, String.toList_ofList, TokenKind.IsLexeme]
    refine ⟨?_, hdigits⟩
    rintro rfl
    have hdigit := (CharClass.of_eq_digit_iff c).mp hclass
    rw [hstop c (by rw [← List.nil_append after, ← hsplit]; rfl)] at hdigit
    cases hdigit
  | word =>
    obtain ⟨others, after, rfl, hothers, hstop⟩ := exists_run isWordContinue cs
    rw [ofKind?, word_append c hothers hstop, Option.some.injEq, Prod.mk.injEq] at htaken
    obtain ⟨rfl, rfl⟩ := htaken
    refine ⟨by simp [Token.lexeme], hstop, fun hclass ↦ ?_⟩
    simp only [Token.WellFormed, String.toList_ofList, TokenKind.IsLexeme]
    exact ⟨(CharClass.of_eq_letter_iff c).mp hclass, hothers⟩
  | string =>
    obtain rfl := hquote rfl
    obtain ⟨body, after, rfl, hbody, hstop⟩ := exists_run (· != '"') cs
    have hinside : '"' ∉ body := fun hmem ↦ by simpa using hbody '"' hmem
    cases after with
    | nil =>
      rw [ofKind?, List.append_nil, string?_eq_none hinside] at htaken
      cases htaken
    | cons d after =>
      obtain rfl : d = '"' := by simpa using hstop d rfl
      rw [ofKind?, string?_append hinside, Option.some.injEq, Prod.mk.injEq] at htaken
      obtain ⟨rfl, rfl⟩ := htaken
      refine ⟨by simp [Token.lexeme], trivial, fun _ ↦ ?_⟩
      simpa [Token.WellFormed, TokenKind.IsLexeme] using hinside
  | operator =>
    by_cases hpair : ∃ d ∈ cs.head?, completesPair c d = true
    · obtain ⟨d, hd, hpair⟩ := hpair
      obtain ⟨after, rfl⟩ := List.head?_eq_some_iff.mp hd
      rw [ofKind?, operator_pair hpair, Option.some.injEq, Prod.mk.injEq] at htaken
      obtain ⟨rfl, rfl⟩ := htaken
      refine ⟨by simp [Token.lexeme], fun e _ first hfirst ↦ ?_, fun _ ↦ ?_⟩
      · simp at hfirst
      · exact Or.inr ⟨_, List.contains_iff_mem.mp hpair, rfl⟩
    · have hsingle : ∀ d ∈ cs.head?, completesPair c d = false := fun d hd ↦
        Bool.eq_false_iff.mpr fun htrue ↦ hpair ⟨d, hd, htrue⟩
      rw [ofKind?, operator_single hsingle, Option.some.injEq, Prod.mk.injEq] at htaken
      obtain ⟨rfl, rfl⟩ := htaken
      refine ⟨by simp [Token.lexeme], fun d hd first hfirst ↦ ?_, fun hclass ↦ ?_⟩
      · obtain rfl : c = first := by simpa using hfirst
        exact hsingle d hd
      · have hc := List.contains_iff_mem.mp ((CharClass.of_eq_operator_iff c).mp hclass)
        exact Or.inl ⟨c, hc, String.toList_singleton c⟩
  | delimiter =>
    rw [ofKind?, delimiter, Option.some.injEq, Prod.mk.injEq] at htaken
    obtain ⟨rfl, rfl⟩ := htaken
    refine ⟨by simp [Token.lexeme], trivial, fun hclass ↦ ?_⟩
    have hc := List.contains_iff_mem.mp ((CharClass.of_eq_delimiter_iff c).mp hclass)
    exact ⟨c, hc, String.toList_singleton c⟩

/-- Only behind the last quote of a text there is no token of a kind. -/
theorem of_ofKind?_eq_none (hquote : kind = .string → c = '"')
    (hnone : ofKind? kind (c :: cs) = none) : c = '"' ∧ '"' ∉ cs := by
  cases kind with
  | string =>
    obtain rfl := hquote rfl
    refine ⟨rfl, fun hmem ↦ ?_⟩
    obtain ⟨body, rest, rfl, hbody⟩ := List.eq_append_cons_of_mem hmem
    rw [ofKind?, string?_append hbody] at hnone
    cases hnone
  | _ => cases hnone

end OfKind

end Munch

/-! ### The piece at the front of a text -/

namespace Piece

/-- A text that is not empty starts with a well-formed piece that ends before the rest. -/
theorem exists_piece (c : Char) (cs : List Char) :
    ∃ (piece : Piece) (rest : List Char), c :: cs = piece.text ++ rest ∧ piece.WellFormed ∧
      piece.EndsBefore rest := by
  rcases CharClass.startClass_or_gap (CharClass.of c) with ⟨kind, hclass⟩ | hspace | hother
  · have hquote : kind = .string → c = '"' := by
      rintro rfl
      exact (CharClass.of_eq_quote_iff c).mp hclass
    cases htaken : Munch.ofKind? kind (c :: cs) with
    | some taken =>
      obtain ⟨t, rest⟩ := taken
      obtain ⟨htext, hends, hwell⟩ := Munch.of_ofKind?_eq_some hquote htaken
      exact ⟨token t, rest, htext, hwell hclass, hends⟩
    | none =>
      obtain ⟨rfl, hunclosed⟩ := Munch.of_ofKind?_eq_none hquote htaken
      exact ⟨openString ('"' :: cs), [], by simp [text], ⟨cs, rfl, hunclosed⟩, rfl⟩
  · exact ⟨separator c, cs, rfl, hspace, trivial⟩
  · exact ⟨stray c, cs, rfl, hother, trivial⟩

/-- The sub-scanner of a kind of token takes a well-formed token that ends before the rest. -/
theorem next_token {t : Token} (ht : t.WellFormed) {c : Char} {cs rest : List Char}
    (htext : c :: cs = t.lexeme ++ rest) (hends : t.EndsBefore rest.head?) :
    next c cs = (token t, rest) := by
  obtain ⟨first, others, hlexeme, hclass⟩ := ht.exists_cons
  have hsplit := htext
  rw [hlexeme, List.cons_append, List.cons.injEq] at hsplit
  obtain ⟨rfl, -⟩ := hsplit
  obtain ⟨kind, body⟩ := t
  rw [next, hclass]
  cases kind with
  | number =>
    obtain ⟨hne, hdigits⟩ := ht
    have hmunch := Munch.number_append hdigits hends
    simp only [TokenKind.startClass, htext]
    simp [Token.lexeme, hmunch]
  | word =>
    have hbody : body.toList = c :: others := hlexeme
    unfold Token.WellFormed at ht
    simp only [hbody, TokenKind.IsLexeme] at ht
    have hmunch := Munch.word_append c ht.2 hends
    rw [← hbody, String.ofList_toList] at hmunch
    simp only [TokenKind.startClass, htext]
    simp [Token.lexeme, hbody, hmunch]
  | string =>
    have hbody : '"' ∉ body.toList := ht
    have hmunch := Munch.string?_append hbody rest
    simp only [TokenKind.startClass, htext]
    simp [Token.lexeme, hmunch]
  | operator =>
    have hmunch := Munch.operator_append ht hends
    simp only [TokenKind.startClass, htext]
    simp [Token.lexeme, hmunch]
  | delimiter =>
    obtain ⟨e, _, hbody⟩ := ht
    obtain rfl : body = String.singleton e := by
      rw [← String.toList_inj, hbody, String.toList_singleton]
    simp only [TokenKind.startClass, htext]
    simp [Token.lexeme, Munch.delimiter]

/-- Only one piece can be taken: a well-formed piece that ends before the rest is the next one. -/
theorem next_eq_of_endsBefore {piece : Piece} (hpiece : piece.WellFormed) {c : Char}
    {cs rest : List Char} (htext : c :: cs = piece.text ++ rest) (hends : piece.EndsBefore rest) :
    next c cs = (piece, rest) := by
  cases piece with
  | token t => exact next_token hpiece htext hends
  | separator d =>
    obtain ⟨rfl, rfl⟩ := List.cons.inj htext
    have hclass : CharClass.of c = .whitespace := hpiece
    rw [next, hclass]
  | stray d =>
    obtain ⟨rfl, rfl⟩ := List.cons.inj htext
    have hclass : CharClass.of c = .other := hpiece
    rw [next, hclass]
  | openString body =>
    obtain ⟨inside, rfl, hquote⟩ := hpiece
    obtain rfl : rest = [] := hends
    rw [text, List.append_nil, List.cons.injEq] at htext
    obtain ⟨rfl, rfl⟩ := htext
    rw [next, CharClass.of_quote]
    simp [Munch.string?_eq_none hquote]

/-- The piece taken from a text is the well-formed piece at its front that ends before what
follows. -/
theorem next_eq_iff (c : Char) (cs : List Char) (piece : Piece) (rest : List Char) :
    next c cs = (piece, rest) ↔
      c :: cs = piece.text ++ rest ∧ piece.WellFormed ∧ piece.EndsBefore rest := by
  constructor
  · intro hnext
    obtain ⟨found, others, htext, hfound, hends⟩ := exists_piece c cs
    rw [next_eq_of_endsBefore hfound htext hends, Prod.mk.injEq] at hnext
    obtain ⟨rfl, rfl⟩ := hnext
    exact ⟨htext, hfound, hends⟩
  · rintro ⟨htext, hpiece, hends⟩
    exact next_eq_of_endsBefore hpiece htext hends

end Piece

end Lexeme
