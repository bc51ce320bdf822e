import Lexeme.Proofs.Troubles

/-!
# Text appended to a source

What a scan has found in a source is found again when text is appended to it, up to the last piece:
only that piece can change, and if it is a token it can only grow (`Piece.Becomes`). A token grows
when it is a number, a word or an operator of one character (`Token.Growable`); an open string may
be closed by the appended text, but it was no token before. So the tokens of a source are those of
every longer source, with the last one in doubt (`scan_of_append`).
-/

set_option autoImplicit false
set_option relaxedAutoImplicit false

namespace Lexeme

open Text (byteWidth isDecimalDigit)

/-! ### Tokens that grow -/

/-- Whether characters behind the token can become part of it. -/
def Token.Growable (token : Token) : Prop :=
  token.kind = .number ∨ token.kind = .word ∨ (token.kind = .operator ∧ token.text.length = 1)

instance : DecidablePred Token.Growable :=
  fun _ ↦ inferInstanceAs (Decidable (_ ∨ _ ∨ _))

/-- The second token is the first one with no, or only if it can grow some, characters added. -/
structure Token.GrowsTo (token grown : Token) : Prop where
  kind : grown.kind = token.kind
  text : token.text.toList <+: grown.text.toList
  eq : ¬ token.Growable → grown = token

theorem Token.GrowsTo.refl (token : Token) : token.GrowsTo token :=
  ⟨rfl, List.prefix_rfl, fun _ ↦ rfl⟩

/-- A token before any text is the start of a token that ends where it should. -/
theorem Token.WellFormed.exists_growsTo {token : Token} (htoken : token.WellFormed)
    (more : List Char) :
    ∃ (grown : Token) (rest : List Char), token.lexeme ++ more = grown.lexeme ++ rest ∧
      grown.WellFormed ∧ grown.EndsBefore rest.head? ∧ token.GrowsTo grown := by
  obtain ⟨kind, body⟩ := token
  cases kind with
  | number =>
    obtain ⟨kept, rest, rfl, hkept, hstop⟩ := Munch.exists_run isDecimalDigit more
    have hdigits : TokenKind.number.IsLexeme (body.toList ++ kept) :=
      ⟨by simp [htoken.1], List.forall_mem_append.mpr ⟨htoken.2, hkept⟩⟩
    refine ⟨⟨.number, String.ofList (body.toList ++ kept)⟩, rest, ?_, ?_, hstop, rfl, ?_, ?_⟩
    · simp [Token.lexeme]
    · simpa [Token.WellFormed] using hdigits
    · simp
    · exact fun hgrow ↦ absurd (Or.inl rfl) hgrow
  | word =>
    obtain ⟨kept, rest, rfl, hkept, hstop⟩ := Munch.exists_run isWordContinue more
    have hword : TokenKind.word.IsLexeme (body.toList ++ kept) := by
      unfold Token.WellFormed at htoken
      dsimp only at htoken
      cases hbody : body.toList with
      | nil => rw [hbody] at htoken; exact htoken.elim
      | cons first others =>
        rw [hbody] at htoken
        exact ⟨htoken.1, List.forall_mem_append.mpr ⟨htoken.2, hkept⟩⟩
    refine ⟨⟨.word, String.ofList (body.toList ++ kept)⟩, rest, ?_, ?_, hstop, rfl, ?_, ?_⟩
    · simp [Token.lexeme]
    · simpa [Token.WellFormed] using hword
    · simp
    · exact fun hgrow ↦ absurd (Or.inr (Or.inl rfl)) hgrow
  | string => exact ⟨_, more, rfl, htoken, trivial, .refl _⟩
  | delimiter => exact ⟨_, more, rfl, htoken, trivial, .refl _⟩
  | operator =>
    by_cases hends : (⟨.operator, body⟩ : Token).EndsBefore more.head?
    · exact ⟨_, more, rfl, htoken, hends, .refl _⟩
    · -- Only an operator of one character is continued, by the one that completes it.
      obtain ⟨d, hd, c, hbody, hpair⟩ : ∃ d ∈ more.head?, ∃ c, body.toList = [c] ∧
          completesPair c d = true := by
        simpa [Token.EndsBefore] using hends
      obtain ⟨rest, rfl⟩ := List.head?_eq_some_iff.mp hd
      have hpairToken : TokenKind.operator.IsLexeme ((String.singleton c).push d).toList :=
        Or.inr ⟨_, List.contains_iff_mem.mp hpair, rfl⟩
      refine ⟨⟨.operator, (String.singleton c).push d⟩, rest, ?_, hpairToken, ?_, rfl, ?_, ?_⟩
      · simp [Token.lexeme, hbody]
      · intro e _ first hfirst
        simp at hfirst
      · simp [hbody]
      · have hsingle : body.length = 1 := by rw [← String.length_toList, hbody]; rfl
        exact fun hgrow ↦ absurd (Or.inr (Or.inr ⟨rfl, hsingle⟩)) hgrow

/-! ### The last piece -/

/-- What the last piece of a text can become when text is appended: a token may grow, an open string
may turn into any string, and other pieces stay. -/
inductive Piece.Becomes : Piece → Piece → Prop where
  | token {t grown : Token} (hgrows : t.GrowsTo grown) : Becomes (.token t) (.token grown)
  | separator (c : Char) : Becomes (.separator c) (.separator c)
  | stray (c : Char) : Becomes (.stray c) (.stray c)
  | openString (cs : List Char) (piece : Piece) : Becomes (.openString cs) piece

/-- The last piece of a text and the text after it start with what the piece becomes. -/
theorem Piece.WellFormed.exists_becomes {last : Piece} (hlast : last.WellFormed)
    (more : List Char) :
    ∃ (next : Piece) (rest : List Char), last.text ++ more = next.text ++ rest ∧
      next.WellFormed ∧ next.EndsBefore rest ∧ last.Becomes next := by
  cases last with
  | token t =>
    obtain ⟨grown, rest, htext, hgrown, hends, hgrows⟩ := Token.WellFormed.exists_growsTo hlast more
    exact ⟨.token grown, rest, htext, hgrown, hends, .token hgrows⟩
  | separator c => exact ⟨_, more, rfl, hlast, trivial, .separator c⟩
  | stray c => exact ⟨_, more, rfl, hlast, trivial, .stray c⟩
  | openString cs =>
    obtain ⟨body, rfl, -⟩ := hlast
    obtain ⟨next, rest, htext, hnext, hends⟩ := exists_piece '"' (body ++ more)
    exact ⟨next, rest, htext, hnext, hends, .openString _ next⟩

/-- Appended text leaves the pieces of a source as they are, except that the last one becomes
another. -/
theorem Piece.ofSource_of_append (source more : String) :
    ofSource source = [] ∨
      ∃ (init rest : List (Spanned Piece)) (last next : Piece) (start stop : Nat),
        ofSource source = init ++ [⟨last, start, source.utf8ByteSize⟩] ∧
        ofSource (source ++ more) = init ++ ⟨next, start, stop⟩ :: rest ∧
        (last = next → stop = source.utf8ByteSize) ∧ last.Becomes next := by
  obtain ⟨pieces, htiles, htext, hlocated⟩ := exists_located_eq_place source.toList
  rw [ofSource, hlocated]
  cases pieces using List.reverseRecOn with
  | nil => exact Or.inl rfl
  | append_singleton init last =>
    obtain ⟨hinit, ⟨hlast, -, -⟩, hcut⟩ := (tiles_append_iff init [last]).mp htiles
    rw [textOf_cons, textOf_nil, List.append_nil] at hcut
    obtain ⟨next, rest, hnext, hwell, hends, hbecomes⟩ := hlast.exists_becomes more.toList
    obtain ⟨others, hothers, rfl⟩ := exists_tiles rest
    -- The pieces before the last one end before it, and so before the text that it starts.
    have hcut' : ∀ piece ∈ init.getLast?, piece.EndsBefore (textOf (next :: others)) := by
      intro piece hpiece
      rw [textOf_cons, ← hnext]
      exact (hcut piece hpiece).append hlast.text_ne_nil more.toList
    have htiles' : Tiles (init ++ next :: others) :=
      (tiles_append_iff init (next :: others)).mpr ⟨hinit, ⟨hwell, hends, hothers⟩, hcut'⟩
    have htext' : (source ++ more).toList = textOf (init ++ next :: others) := by
      rw [String.toList_append, ← htext, textOf_append, textOf_append, textOf_cons, textOf_cons,
        textOf_nil, List.append_nil, ← hnext, List.append_assoc]
    have hsize : source.utf8ByteSize = byteWidth (textOf init) + last.width := by
      rw [← Text.byteWidth_toList, ← htext, textOf_append, textOf_cons, textOf_nil, List.append_nil,
        Text.byteWidth_append, width_eq]
    refine Or.inr ⟨place 0 init, place (byteWidth (textOf init) + next.width) others, last, next,
      byteWidth (textOf init), byteWidth (textOf init) + next.width, ?_, ?_, ?_, hbecomes⟩
    · rw [place_append, place, place, Nat.zero_add, hsize]
    · rw [ofSource, htext', located_textOf htiles', place_append, place, Nat.zero_add]
    · rintro rfl
      exact hsize.symm

/-! ### Tokens and troubles before appended text -/

/-- The tokens of a source are the first ones of every longer source, or all of them are except the
last one, which reaches to the end and grows. -/
theorem tokens_of_append (settings : ScanSettings) (source more : String) :
    (scan settings source).tokens <+: (scan settings (source ++ more)).tokens ∨
      ∃ (init rest : List (Spanned Token)) (last grown : Spanned Token),
        (scan settings source).tokens = init ++ [last] ∧
        (scan settings (source ++ more)).tokens = init ++ grown :: rest ∧
        last.span.stop = source.utf8ByteSize ∧ grown.span.start = last.span.start ∧
        last.value.GrowsTo grown.value ∧ (last.value = grown.value → grown = last) := by
  rw [tokens_scan, tokens_scan]
  rcases Piece.ofSource_of_append source more with
    hnil | ⟨init, rest, last, next, start, stop, hsource, happend, hstop, hbecomes⟩
  · rw [hnil]
    exact Or.inl List.nil_prefix
  · rw [hsource, happend, List.filterMap_append, List.filterMap_append]
    cases hbecomes with
    | @token t grown hgrows =>
      refine Or.inr ⟨_, rest.filterMap Piece.spannedToken?, ⟨t, start, source.utf8ByteSize⟩,
        ⟨grown, start, stop⟩, rfl, rfl, rfl, rfl, hgrows, ?_⟩
      rintro rfl
      rw [hstop rfl]
    | separator c | stray c | openString cs =>
      refine Or.inl ((List.prefix_append_right_inj _).mpr ?_)
      exact List.nil_prefix

/-- Among the troubles that are kept, the unrecognized characters are the first ones of all
unrecognized characters. -/
theorem Diagnostic.filter_take_ofSource (source : String) (limit : Nat) :
    ((ofSource source).take limit).filter (·.kind == .unrecognizedCharacter) =
      ((ofSource source).filter (·.kind == .unrecognizedCharacter)).take limit := by
  obtain ⟨strays, opens, hsource, hfirst, hnone⟩ : ∃ strays opens,
      ofSource source = strays ++ opens ∧
      (∀ diagnostic ∈ strays, (diagnostic.kind == .unrecognizedCharacter) = true) ∧
      ∀ diagnostic ∈ opens, ¬ (diagnostic.kind == .unrecognizedCharacter) = true := by
    refine ⟨_, _, ofSource_eq_append .builtIn source, List.forall_mem_map.mpr fun _ _ ↦ rfl, ?_⟩
    split_ifs <;> simp [make]
  rw [hsource, List.take_append, List.filter_append, List.filter_append,
    List.filter_eq_self.mpr hfirst, List.filter_eq_nil_iff.mpr hnone, List.append_nil,
    List.filter_eq_self.mpr fun diagnostic hmem ↦ hfirst diagnostic (List.mem_of_mem_take hmem),
    List.filter_eq_nil_iff.mpr fun diagnostic hmem ↦ hnone diagnostic (List.mem_of_mem_take hmem),
    List.append_nil]

/-- Only the last piece of a source can be an open string. -/
theorem Piece.closed_of_concat {source : String} {init : List (Spanned Piece)}
    {last : Spanned Piece} (hsource : ofSource source = init ++ [last]) :
    ∀ piece ∈ init, piece.value.isOpenString = false := by
  rcases ofSource_closed_or_open source with ⟨-, hclosed⟩ | ⟨front, body, hfront, -, -, hclosed⟩
  · exact fun piece hmem ↦ hclosed piece (hsource ▸ List.mem_append_left _ hmem)
  · obtain ⟨rfl, -⟩ := List.append_inj' (hfront.symm.trans hsource) rfl
    exact hclosed

/-- The unrecognized characters of a source are the first troubles of every longer source. -/
theorem Diagnostic.ofSource_of_append (source more : String) :
    (ofSource source).filter (·.kind == .unrecognizedCharacter) <+: ofSource (source ++ more) := by
  rw [ofSource_eq, ofSource_eq]
  rcases Piece.ofSource_of_append source more with
    hnil | ⟨init, rest, last, next, start, stop, hsource, happend, hstop, hbecomes⟩
  · rw [hnil]
    exact List.nil_prefix
  · have hclosed := Piece.closed_of_concat hsource
    have hinit : ∀ diagnostic ∈ init.filterMap ofPiece?,
        (diagnostic.kind == .unrecognizedCharacter) = true := by
      rw [filterMap_ofPiece?_closed hclosed]
      exact List.forall_mem_map.mpr fun _ _ ↦ rfl
    rw [hsource, happend, List.filterMap_append, List.filterMap_append, List.filter_append,
      List.filter_eq_self.mpr hinit]
    refine (List.prefix_append_right_inj _).mpr ?_
    cases hbecomes with
    | token hgrows => exact List.nil_prefix
    | separator c => exact List.nil_prefix
    | openString cs => exact List.nil_prefix
    | stray c =>
      rw [hstop rfl]
      exact ⟨rest.filterMap ofPiece?, rfl⟩

/-! ### The scan of a longer source -/

/-- A scan of a source goes on when text is appended to it. It finds no fewer tokens; those before
the last one stay as they are, and so does the last one, unless it reaches to the end of the source
and can grow; even then it keeps its kind and its start, and its text is the start of the longer
text. The unrecognized characters that were kept are kept again, before all other troubles. A string
that is open at the end of the source is no exception. -/
theorem scan_of_append (settings : ScanSettings) (source more : String) :
    let before := scan settings source
    let after := scan settings (source ++ more)
    before.tokens.length ≤ after.tokens.length ∧
    (∀ i, i + 1 < before.tokens.length → after.tokens[i]? = before.tokens[i]?) ∧
    (∀ last ∈ before.tokens.getLast?, ∃ found ∈ after.tokens[before.tokens.length - 1]?,
      (¬ (last.value.Growable ∧ last.span.stop = source.utf8ByteSize) → found = last) ∧
      found.value.kind = last.value.kind ∧ found.span.start = last.span.start ∧
      last.value.text.toList <+: found.value.text.toList) ∧
    before.diagnostics.filter (·.kind == .unrecognizedCharacter) <+: after.diagnostics := by
  intro before after
  have hdiagnostics : before.diagnostics.filter (·.kind == .unrecognizedCharacter) <+:
      after.diagnostics := by
    obtain ⟨rest, hrest⟩ := Diagnostic.ofSource_of_append source more
    rw [diagnostics_scan, diagnostics_scan, Diagnostic.filter_take_ofSource, ← hrest,
      List.take_append]
    exact List.prefix_append _ _
  rcases tokens_of_append settings source more with
    ⟨rest, hrest⟩ | ⟨init, rest, last, grown, hbefore, hafter, hstop, hstart, hgrows, heq⟩
  · have hafter : after.tokens = before.tokens ++ rest := hrest.symm
    rw [hafter]
    refine ⟨by simp, fun i hi ↦ List.getElem?_append_left (by omega), fun last hlast ↦ ?_,
      hdiagnostics⟩
    have hpos : before.tokens ≠ [] := by
      intro hnil
      rw [hnil] at hlast
      cases hlast
    have hlength := List.length_pos_iff.mpr hpos
    refine ⟨last, ?_, fun _ ↦ rfl, rfl, rfl, List.prefix_rfl⟩
    rw [List.getElem?_append_left (by omega), ← List.getLast?_eq_getElem?]
    exact hlast
  · have hbefore : before.tokens = init ++ [last] := hbefore
    have hafter : after.tokens = init ++ grown :: rest := hafter
    rw [hbefore, hafter, List.getLast?_concat, List.length_append, List.length_append,
      List.length_singleton, List.length_cons, Nat.add_sub_cancel]
    refine ⟨by omega, fun i hi ↦ ?_, ?_, hdiagnostics⟩
    · rw [List.getElem?_append_left (by omega), List.getElem?_append_left (by omega)]
    · rintro _ ⟨⟩
      refine ⟨grown, by simp, fun hgrow ↦ ?_, hgrows.kind, hstart, hgrows.text⟩
      exact heq (hgrows.eq fun hgrowable ↦ hgrow ⟨hgrowable, hstop⟩).symm

end Lexeme
