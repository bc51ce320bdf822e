import Lexeme.Proofs.Places

/-!
# Tokens that are joined and read again

Texts put in a row are read one by one when what stands between them keeps them apart
(`Text.Isolates`) and no string is left open in any of them (`tokensIn_intercalate`). A token that
is no string is its own text, so it is read back as it is; the text of a string has lost its quotes
and is read as a source of its own (`Token.tokensIn_text`). Reading the joined texts of a source
therefore opens up its strings and changes nothing else, and since nothing that has been read
without quotes holds a string, a second reading changes nothing at all (`tokenize_joined`).
-/

set_option autoImplicit false
set_option relaxedAutoImplicit false

namespace Lexeme

/-- Characters that keep apart what stands before and after them: there is at least one, all of them
belong between tokens, and the first one is not the underscore that a word would take in. -/
structure Text.Isolates (between : List Char) : Prop where
  nonempty : between ≠ []
  gaps : ∀ c ∈ between, IsGap c
  start : between.head? ≠ some '_'

/-! ### Texts in a row -/

/-- Every token ends before characters that keep texts apart. -/
theorem Token.endsBefore_isolating (token : Token) {between : List Char}
    (hbetween : Text.Isolates between) (rest : List Char) :
    token.EndsBefore (between ++ rest).head? := by
  obtain ⟨hne, hgaps, hstart⟩ := hbetween
  obtain ⟨c, others, rfl⟩ := List.exists_cons_of_ne_nil hne
  rw [List.cons_append, List.head?_cons, token.endsBefore_gap_iff (hgaps c List.mem_cons_self)]
  rintro - rfl
  exact hstart rfl

/-- Two texts put together hold the tokens of each when the second does not continue the last piece
of the first. -/
theorem tokensIn_append {cs ds : List Char}
    (hcut : ∀ piece ∈ (Piece.located 0 cs).getLast?, piece.value.EndsBefore ds) :
    tokensIn (cs ++ ds) = tokensIn cs ++ tokensIn ds := by
  have hlocated := Piece.located_append 0 hcut
  rw [tokensIn, hlocated, Piece.tokensOf_append, Piece.located_add 0, Piece.tokensOf_map_shift,
    tokensIn, tokensIn]

/-- A text in which no string is left open is read by itself before characters that keep texts
apart. -/
theorem tokensIn_append_isolating {cs between : List Char} (heven : cs.count '"' % 2 = 0)
    (hbetween : Text.Isolates between) (ds : List Char) :
    tokensIn (cs ++ (between ++ ds)) = tokensIn cs ++ tokensIn ds := by
  have hclosed := (counts_located 0 cs).2
  rw [heven, List.countP_eq_zero] at hclosed
  have hcut : ∀ piece ∈ (Piece.located 0 cs).getLast?,
      piece.value.EndsBefore (between ++ ds) := by
    rintro ⟨value, span⟩ hlast
    cases value with
    | token t => exact t.endsBefore_isolating hbetween ds
    | separator c => trivial
    | stray c => trivial
    | openString text => exact absurd rfl (hclosed _ (List.mem_of_getLast? hlast))
  rw [tokensIn_append hcut, tokensIn_gaps hbetween.gaps]

/-- Texts in which no string is left open, with something between them that keeps them apart, are
read one by one. -/
theorem tokensIn_intercalate {between : List Char} (hbetween : Text.Isolates between)
    (texts : List (List Char)) (heven : ∀ text ∈ texts, text.count '"' % 2 = 0) :
    tokensIn (between.intercalate texts) = texts.flatMap tokensIn := by
  induction texts with
  | nil => exact tokensIn_nil
  | cons text texts ih =>
    obtain ⟨htext, htexts⟩ := List.forall_mem_cons.mp heven
    cases texts with
    | nil => simp
    | cons next texts =>
      rw [List.intercalate_cons_cons, List.append_assoc, tokensIn_append_isolating htext hbetween,
        ih htexts]
      exact List.flatMap_cons.symm

/-! ### Tokens by themselves -/

/-- The tokens of a text are well formed. -/
theorem wellFormed_of_mem_tokensIn {cs : List Char} :
    ∀ token ∈ tokensIn cs, token.WellFormed :=
  Piece.wellFormed_of_mem_tokensOf Piece.wellFormed_of_mem_located

/-- A text without quotes holds no string. -/
theorem kind_ne_string_of_mem_tokensIn {cs : List Char} (hquote : '"' ∉ cs) :
    ∀ token ∈ tokensIn cs, token.kind ≠ .string := by
  have hnone := List.countP_eq_zero.mp (counts_plain hquote 0).1
  exact fun token hmem hkind ↦ hnone token hmem (beq_iff_eq.mpr hkind)

/-- A token as it stands in a source is read back by itself. -/
theorem Token.WellFormed.tokensIn_lexeme {token : Token} (htoken : token.WellFormed) :
    tokensIn token.lexeme = [token] := by
  have hends : token.EndsBefore ([] : List Char).head? := token.endsBefore_none
  have hread := tokensIn_token htoken hends
  rwa [List.append_nil, tokensIn_nil] at hread

/-- What is read from the text of a token: the token itself, unless it is a string, whose text is
read as a source. -/
theorem Token.WellFormed.tokensIn_text {token : Token} (htoken : token.WellFormed) :
    tokensIn token.text.toList = if token.kind = .string then tokenize token.text else [token] := by
  split_ifs with hkind
  · exact (tokenize_eq_tokensIn token.text).symm
  · have hlexeme : token.lexeme = token.text.toList := by
      unfold Token.lexeme
      split
      · contradiction
      · rfl
    rw [← hlexeme, htoken.tokensIn_lexeme]

/-- Outside strings a token has no quote, and a string has two. -/
theorem Token.WellFormed.even_count_lexeme {token : Token} (htoken : token.WellFormed) :
    token.lexeme.count '"' % 2 = 0 :=
  have hpiece : (Piece.token token).WellFormed := htoken
  hpiece.even_count_quote rfl

/-! ### A source read again -/

section Again

variable {separator : String} (hseparator : Text.Isolates separator.toList)

include hseparator

/-- The joined texts of well-formed tokens, read again: strings are opened up, and all else
stays. -/
theorem tokenize_intercalate_texts {tokens : List Token}
    (htokens : ∀ token ∈ tokens, token.WellFormed) :
    tokenize (separator.intercalate (tokens.map (·.text))) =
      tokens.flatMap fun token ↦ if token.kind = .string then tokenize token.text else [token] := by
  have heven : ∀ text ∈ tokens.map (·.text.toList), text.count '"' % 2 = 0 := by
    refine List.forall_mem_map.mpr fun token hmem ↦ ?_
    rw [List.count_eq_zero.mpr (htokens token hmem).quote_not_mem_text]
  rw [tokenize_eq_tokensIn, String.toList_intercalate, List.map_map]
  refine (tokensIn_intercalate hseparator _ heven).trans ?_
  rw [List.flatMap_map]
  exact List.flatMap_congr fun token hmem ↦ (htokens token hmem).tokensIn_text

/-- Well-formed tokens of which none is a string are read back from their joined texts. -/
theorem tokenize_intercalate_texts_eq_self {tokens : List Token}
    (htokens : ∀ token ∈ tokens, token.WellFormed)
    (hkinds : ∀ token ∈ tokens, token.kind ≠ .string) :
    tokenize (separator.intercalate (tokens.map (·.text))) = tokens := by
  rw [tokenize_intercalate_texts hseparator htokens]
  have hself : ∀ token ∈ tokens,
      (if token.kind = .string then tokenize token.text else [token]) = [token] :=
    fun token hmem ↦ if_neg (hkinds token hmem)
  rw [List.flatMap_congr hself, List.flatMap_singleton']

/-- Well-formed tokens are read back from what they are in a source, joined. -/
theorem tokenize_intercalate_sourceTexts {tokens : List Token}
    (htokens : ∀ token ∈ tokens, token.WellFormed) :
    tokenize (separator.intercalate (tokens.map (·.sourceText))) = tokens := by
  have heven : ∀ text ∈ tokens.map (·.lexeme), text.count '"' % 2 = 0 :=
    List.forall_mem_map.mpr fun token hmem ↦ (htokens token hmem).even_count_lexeme
  have hchars : (tokens.map (·.sourceText)).map String.toList = tokens.map (·.lexeme) := by
    rw [List.map_map]
    exact List.map_congr_left fun token _ ↦ String.toList_ofList
  rw [tokenize_eq_tokensIn, String.toList_intercalate, hchars,
    tokensIn_intercalate hseparator _ heven, List.flatMap_map,
    List.flatMap_congr fun token hmem ↦ (htokens token hmem).tokensIn_lexeme,
    List.flatMap_singleton']

end Again

/-- The texts of the tokens of a source, joined by something that keeps them apart, are read as the
tokens of the source with each string replaced by the tokens of its text. Without strings they are
the tokens of the source. What has been read in this way holds no string, and joining it and reading
it again changes nothing. Joined with their quotes, the tokens of every source are read back. -/
theorem tokenize_joined (separator source : String)
    (hseparator : Text.Isolates separator.toList) :
    let tokens := tokenize source
    let reread (tokens : List Token) := tokenize (separator.intercalate (tokens.map (·.text)))
    let once := reread tokens
    once = tokens.flatMap
      (fun token ↦ if token.kind = .string then tokenize token.text else [token]) ∧
    ((∀ token ∈ tokens, token.kind ≠ .string) → once = tokens) ∧
    (∀ token ∈ once, token.kind ≠ .string) ∧
    reread once = once ∧
    tokenize (separator.intercalate (tokens.map (·.sourceText))) = tokens := by
  intro tokens reread once
  have hwell : ∀ text, ∀ token ∈ tokenize text, token.WellFormed := fun text ↦ by
    rw [tokenize_eq_tokensIn]
    exact wellFormed_of_mem_tokensIn
  have honce : once = tokens.flatMap
      (fun token ↦ if token.kind = .string then tokenize token.text else [token]) :=
    tokenize_intercalate_texts hseparator (hwell source)
  have hkinds : ∀ token ∈ once, token.kind ≠ .string := by
    intro token hmem
    rw [honce] at hmem
    obtain ⟨first, hfirst, hmem⟩ := List.mem_flatMap.mp hmem
    split_ifs at hmem with hkind
    · rw [tokenize_eq_tokensIn] at hmem
      exact kind_ne_string_of_mem_tokensIn (hwell source first hfirst).quote_not_mem_text token hmem
    · rw [List.mem_singleton] at hmem
      exact hmem ▸ hkind
  exact ⟨honce, tokenize_intercalate_texts_eq_self hseparator (hwell source), hkinds,
    tokenize_intercalate_texts_eq_self hseparator (hwell _) hkinds,
    tokenize_intercalate_sourceTexts hseparator (hwell source)⟩

/-- Strings that are empty, or start or end like other tokens, between tokens without blanks. -/
theorem tokenize_joined_strings :
    let separator := ".__ "
    let source := "x\"1y_\"_2\"\"=\"=\"=="
    let once := tokenize (separator.intercalate ((tokenize source).map (·.text)))
    Text.Isolates separator.toList ∧
    tokenize source = [⟨.word, "x"⟩, ⟨.string, "1y_"⟩, ⟨.number, "2"⟩, ⟨.string, ""⟩,
      ⟨.operator, "="⟩, ⟨.string, "="⟩, ⟨.operator, "=="⟩] ∧
    once = [⟨.word, "x"⟩, ⟨.number, "1"⟩, ⟨.word, "y_"⟩, ⟨.number, "2"⟩, ⟨.operator, "="⟩,
      ⟨.operator, "="⟩, ⟨.operator, "=="⟩] ∧
    tokenize (separator.intercalate (once.map (·.text))) = once := by
  intro separator source once
  have hgaps : separator.toList.all (fun c ↦ IsGap c) = true := by decide +kernel
  have hseparator : Text.Isolates separator.toList := by
    refine ⟨by decide +kernel, ?_, by decide +kernel⟩
    simpa only [List.all_eq_true, decide_eq_true_eq] using hgaps
  obtain ⟨_, _, _, hfixed, _⟩ := tokenize_joined separator source hseparator
  exact ⟨hseparator, by decide +kernel, by decide +kernel, hfixed⟩

end Lexeme
