import Lexeme.Proofs.Layout

/-!
# When tokens need a gap between them

Tokens written in a row are read back as they are unless one is continued by what follows it. A
gap continues a token only when it starts with an underscore after a word, and without a gap a
token is continued by the next one only for a few pairs of kinds (`Token.merges`). These conditions
are local (`Layout.Separated`), and they are not only sufficient: a layout is read back exactly
when they hold (`tokenize_source_eq_tokens_iff`).
-/

set_option autoImplicit false
set_option relaxedAutoImplicit false

namespace Lexeme

open Text (isDecimalDigit)

/-! ### Tokens that merge -/

/-- Whether the second token continues the first when nothing stands between them: digits after
digits, a word or digits after a word, and an operator whose first character completes an operator
of one character. -/
def Token.merges (first second : Token) : Bool :=
  match first.kind, second.kind with
  | .number, .number => true
  | .word, .word => true
  | .word, .number => true
  | .operator, .operator =>
    match first.text.toList, second.text.toList with
    | [c], d :: _ => completesPair c d
    | _, _ => false
  | _, _ => false

/-- No gap continues a word, and tokens without a gap between them do not merge. -/
structure Layout.Separated (layout : Layout) : Prop where
  afterWords : ∀ part ∈ layout.rest, part.1.kind = .word → part.2.head? ≠ some '_'
  between : layout.rest.IsChain fun part next ↦ part.2 = [] → part.1.merges next.1 = false

theorem Layout.separated_cons_iff (lead : List Char) (part : Token × List Char)
    (rest : List (Token × List Char)) :
    (⟨lead, part :: rest⟩ : Layout).Separated ↔
      ((part.1.kind = .word → part.2.head? ≠ some '_') ∧
        (part.2 = [] → ∀ next ∈ rest.head?, part.1.merges next.1 = false)) ∧
      (⟨[], rest⟩ : Layout).Separated := by
  constructor
  · rintro ⟨hwords, hbetween⟩
    obtain ⟨hword, hwords⟩ := List.forall_mem_cons.mp hwords
    obtain ⟨hfirst, hbetween⟩ := List.isChain_cons.mp hbetween
    exact ⟨⟨hword, fun hgap next hnext ↦ hfirst next hnext hgap⟩, hwords, hbetween⟩
  · rintro ⟨⟨hword, hfirst⟩, hwords, hbetween⟩
    exact ⟨List.forall_mem_cons.mpr ⟨hword, hwords⟩,
      List.isChain_cons.mpr ⟨fun next hnext hgap ↦ hfirst hgap next hnext, hbetween⟩⟩

/-! ### Where a token of a layout ends -/

/-- A character between tokens continues a token only when it is an underscore after a word. -/
theorem Token.endsBefore_gap_iff (token : Token) {c : Char} (hgap : IsGap c) :
    token.EndsBefore (some c) ↔ (token.kind = .word → c ≠ '_') := by
  obtain ⟨kind, body⟩ := token
  have hdigit : CharClass.of c ≠ .digit := by rcases hgap with hgap | hgap <;> simp [hgap]
  have hletter : CharClass.of c ≠ .letter := by rcases hgap with hgap | hgap <;> simp [hgap]
  have hoperator : CharClass.of c ≠ .operator := by rcases hgap with hgap | hgap <;> simp [hgap]
  cases kind with
  | number =>
    have hends : isDecimalDigit c = false := by
      rwa [ne_eq, CharClass.of_eq_digit_iff, Bool.not_eq_true] at hdigit
    simp [Token.EndsBefore, hends]
  | word =>
    have hword := isWordContinue_eq_true_iff c
    simp only [hdigit, hletter, or_false] at hword
    rw [← not_iff_not] at hword
    simpa [Token.EndsBefore] using hword
  | string => simp [Token.EndsBefore]
  | operator =>
    have hends : ∀ first, completesPair first c = false := fun first ↦
      Bool.eq_false_iff.mpr fun hpair ↦ hoperator (completesPair_second hpair)
    simp [Token.EndsBefore, hends]
  | delimiter => simp [Token.EndsBefore]

/-- The start of a well-formed token continues another token exactly when the two merge. -/
theorem Token.endsBefore_token_iff (token : Token) {next : Token} (hnext : next.WellFormed) :
    token.EndsBefore next.lexeme.head? ↔ token.merges next = false := by
  obtain ⟨c, cs, hlexeme, hclass⟩ := hnext.exists_cons
  rw [hlexeme, List.head?_cons]
  obtain ⟨kind, body⟩ := token
  obtain ⟨kind', body'⟩ := next
  cases kind with
  | number =>
    have hdigit := CharClass.of_eq_digit_iff c
    rw [hclass] at hdigit
    cases kind' <;> simp_all [Token.EndsBefore, Token.merges, TokenKind.startClass]
  | word =>
    have hunderscore : c ≠ '_' := by
      rintro rfl
      rw [CharClass.of_underscore] at hclass
      cases kind' <;> cases hclass
    have hword := isWordContinue_eq_true_iff c
    rw [hclass] at hword
    cases kind' <;> simp_all [Token.EndsBefore, Token.merges, TokenKind.startClass]
  | string => cases kind' <;> simp [Token.EndsBefore, Token.merges]
  | operator =>
    by_cases hoperator : kind' = .operator
    · subst hoperator
      have htext : body'.toList = c :: cs := hlexeme
      cases hbody : body.toList with
      | nil => simp [Token.EndsBefore, Token.merges, hbody]
      | cons first others =>
        cases others with
        | nil => simp [Token.EndsBefore, Token.merges, hbody, htext]
        | cons second others => simp [Token.EndsBefore, Token.merges, hbody]
    · have hends : ∀ first, completesPair first c = false := fun first ↦
        Bool.eq_false_iff.mpr fun hpair ↦ by
          have hsecond := completesPair_second hpair
          rw [hclass] at hsecond
          cases kind' <;> simp_all [TokenKind.startClass]
      cases kind' <;> simp_all [Token.EndsBefore, Token.merges]
  | delimiter => cases kind' <;> simp [Token.EndsBefore, Token.merges]

/-- A token of a layout ends where its lexeme ends exactly when the gap after it does not continue
it and, without a gap, it does not merge with the next token. -/
theorem Token.endsBefore_rest_iff (token : Token) {gap : List Char} (hgap : ∀ c ∈ gap, IsGap c)
    {rest : List (Token × List Char)} (hrest : ∀ next ∈ rest.head?, next.1.WellFormed) :
    token.EndsBefore (gap ++ Layout.charsOf rest).head? ↔
      (token.kind = .word → gap.head? ≠ some '_') ∧
        (gap = [] → ∀ next ∈ rest.head?, token.merges next.1 = false) := by
  cases gap with
  | cons c gap =>
    have hc := token.endsBefore_gap_iff (hgap c List.mem_cons_self)
    simpa using hc
  | nil =>
    cases rest with
    | nil => simpa [Layout.charsOf] using token.endsBefore_none
    | cons next rest =>
      obtain ⟨next, gap⟩ := next
      have hnext : next.WellFormed := hrest (next, gap) rfl
      obtain ⟨c, cs, hlexeme, _⟩ := hnext.exists_cons
      have hends := token.endsBefore_token_iff hnext
      simpa [hlexeme] using hends

/-! ### Reading a layout back -/

/-- A token at the front of a text is read back exactly when it ends where its lexeme does. -/
theorem tokensIn_token_iff {t : Token} (ht : t.WellFormed) (rest : List Char)
    (tokens : List Token) :
    tokensIn (t.lexeme ++ rest) = t :: tokens ↔
      t.EndsBefore rest.head? ∧ tokensIn rest = tokens := by
  constructor
  · intro htokens
    obtain ⟨c, cs, hlexeme, hclass⟩ := ht.exists_cons
    obtain ⟨piece, others, htext, hpiece, hends⟩ := Piece.exists_piece c (cs ++ rest)
    have hsame : t.lexeme ++ rest = piece.text ++ others := by
      rw [hlexeme, List.cons_append, htext]
    rw [hsame, tokensIn_piece piece hpiece hends] at htokens
    cases piece with
    | token found =>
      obtain ⟨rfl, rfl⟩ := List.cons.inj htokens
      obtain rfl : rest = others := List.append_cancel_left hsame
      exact ⟨hends, rfl⟩
    | separator d =>
      obtain ⟨rfl, -⟩ := List.cons.inj htext
      have hseparator : CharClass.of c = .whitespace := hpiece
      rw [hclass] at hseparator
      cases hkind : t.kind <;> rw [hkind] at hseparator <;> cases hseparator
    | stray d =>
      obtain ⟨rfl, -⟩ := List.cons.inj htext
      have hstray : CharClass.of c = .other := hpiece
      rw [hclass] at hstray
      cases hkind : t.kind <;> rw [hkind] at hstray <;> cases hstray
    | openString body =>
      obtain rfl : others = [] := hends
      rw [tokensIn_nil] at htokens
      cases htokens
  · rintro ⟨hends, rfl⟩
    exact tokensIn_token ht hends

theorem Layout.WellFormed.of_cons {lead gap : List Char} {token : Token}
    {rest : List (Token × List Char)}
    (hlayout : (⟨lead, (token, gap) :: rest⟩ : Layout).WellFormed) :
    (∀ c ∈ lead, IsGap c) ∧ token.WellFormed ∧ (⟨gap, rest⟩ : Layout).WellFormed := by
  obtain ⟨htokens, hgaps⟩ := hlayout
  obtain ⟨htoken, htokens⟩ := List.forall_mem_cons.mp htokens
  obtain ⟨hlead, hgaps⟩ := List.forall_mem_cons.mp hgaps
  exact ⟨hlead, htoken, htokens, hgaps⟩

/-- A row of tokens and gaps is read back exactly when no token of it is continued. -/
theorem Layout.tokensIn_chars_iff {lead : List Char} {rest : List (Token × List Char)}
    (hlayout : (⟨lead, rest⟩ : Layout).WellFormed) :
    tokensIn (lead ++ charsOf rest) = rest.map (·.1) ↔ (⟨lead, rest⟩ : Layout).Separated := by
  induction rest generalizing lead with
  | nil =>
    have hlead : ∀ c ∈ lead, IsGap c := hlayout.gaps lead List.mem_cons_self
    rw [tokensIn_gaps hlead]
    exact iff_of_true tokensIn_nil ⟨List.forall_mem_nil _, List.isChain_nil⟩
  | cons part rest ih =>
    obtain ⟨token, gap⟩ := part
    obtain ⟨hlead, htoken, hrest⟩ := hlayout.of_cons
    have hgap : ∀ c ∈ gap, IsGap c := hrest.gaps gap List.mem_cons_self
    have hnext : ∀ next ∈ rest.head?, next.1.WellFormed := fun next hmem ↦
      hrest.tokens next.1 (List.mem_map_of_mem (List.mem_of_mem_head? hmem))
    have hseparated : (⟨gap, rest⟩ : Layout).Separated ↔ (⟨[], rest⟩ : Layout).Separated :=
      ⟨fun h ↦ ⟨h.afterWords, h.between⟩, fun h ↦ ⟨h.afterWords, h.between⟩⟩
    rw [tokensIn_gaps hlead, charsOf_cons, List.map_cons, tokensIn_token_iff htoken, ih hrest,
      token.endsBefore_rest_iff hgap hnext, separated_cons_iff, hseparated]

/-- The text of a well-formed layout is read back as the tokens of the layout exactly when no gap
continues a word and tokens without a gap between them do not merge. The settings of the scan have
no say in it. -/
theorem tokenize_source_eq_tokens_iff (layout : Layout) (hlayout : layout.WellFormed) :
    (∀ settings, (scan settings layout.source).plainTokens = tokenize layout.source) ∧
      (tokenize layout.source = layout.tokens ↔ layout.Separated) := by
  refine ⟨fun settings ↦ plainTokens_scan_eq_tokenize settings layout.source, ?_⟩
  rw [tokenize_eq_tokensIn, Layout.source, String.toList_ofList]
  exact Layout.tokensIn_chars_iff hlayout

/-- Tokens of five kinds without a blank between them, read back from their text. -/
theorem tokenize_source_eq_tokens_iff_unspaced :
    let layout : Layout := ⟨[], [(⟨.word, "x"⟩, []), (⟨.operator, "=="⟩, []),
      (⟨.operator, "="⟩, []), (⟨.string, "a b"⟩, []), (⟨.number, "7"⟩, ['_']),
      (⟨.number, "7"⟩, []), (⟨.word, "y"⟩, []), (⟨.delimiter, ";"⟩, [])]⟩
    layout.WellFormed ∧ layout.Separated ∧ tokenize layout.source = layout.tokens := by
  intro layout
  have hgaps : layout.gaps.all (fun gap ↦ gap.all fun c ↦ IsGap c) = true := by decide +kernel
  have hlayout : layout.WellFormed := by
    refine ⟨by decide +kernel, ?_⟩
    simpa only [List.all_eq_true, decide_eq_true_eq] using hgaps
  have hseparated : layout.Separated := ⟨by decide +kernel, by decide +kernel⟩
  exact ⟨hlayout, hseparated,
    (tokenize_source_eq_tokens_iff layout hlayout).2.mpr hseparated⟩

end Lexeme
