import Lexeme.Proofs.BuildLimits
import Lexeme.Proofs.FirstKeys
import Lexeme.Proofs.MaximalMunch
import Lexeme.Scan.Output
import Mathlib.Algebra.GroupWithZero.Nat

/-!
# What the counters of a scan count

The counters are gathered piece by piece, and each has a meaning of its own: a number of tokens or
of other pieces, a greatest length, a number of bytes (`ScanMetrics.tally`). Gathering them gives
exactly this (`ScanMetrics.ofPieces_eq_tally`). The number of operators that may be counted is
limited: of texts that come one after the other the first distinct ones are counted, each as often
as it occurs among all of them (`CountsFirst`, `countsFirst_foldl`). But the operators that
well-formed tokens can have are fewer (`operatorTexts`), so that none is refused and each is counted
as often as it occurs (`get?_operatorUses`).
-/

set_option autoImplicit false
set_option relaxedAutoImplicit false

namespace Lexeme

open Text (Dictionary)
open Text.Dictionary (Takes firstKeys)

/-! ### Measures of tokens and pieces -/

@[simp] theorem Piece.spannedToken?_token (t : Token) (span : Span) :
    spannedToken? ⟨token t, span⟩ = some ⟨t, span⟩ := rfl

@[simp] theorem Piece.spannedToken?_separator (c : Char) (span : Span) :
    spannedToken? ⟨separator c, span⟩ = none := rfl

@[simp] theorem Piece.spannedToken?_stray (c : Char) (span : Span) :
    spannedToken? ⟨stray c, span⟩ = none := rfl

@[simp] theorem Piece.spannedToken?_openString (cs : List Char) (span : Span) :
    spannedToken? ⟨openString cs, span⟩ = none := rfl

/-- The tokens among pieces, in order. -/
def Piece.tokensOf (pieces : List (Spanned Piece)) : List Token :=
  (pieces.filterMap Piece.spannedToken?).map (·.value)

theorem Piece.tokensOf_append (first second : List (Spanned Piece)) :
    tokensOf (first ++ second) = tokensOf first ++ tokensOf second := by
  simp [tokensOf]

theorem Piece.mem_tokensOf_iff (t : Token) (pieces : List (Spanned Piece)) :
    t ∈ tokensOf pieces ↔ ∃ span, ⟨.token t, span⟩ ∈ pieces := by
  constructor
  · intro htoken
    obtain ⟨spanned, hspanned, rfl⟩ := List.mem_map.mp htoken
    obtain ⟨⟨value, span⟩, hmem, hvalue⟩ := List.mem_filterMap.mp hspanned
    cases value with
    | token t =>
      cases hvalue
      exact ⟨span, hmem⟩
    | separator c => cases hvalue
    | stray c => cases hvalue
    | openString cs => cases hvalue
  · rintro ⟨span, hmem⟩
    exact List.mem_map.mpr ⟨⟨t, span⟩, List.mem_filterMap.mpr ⟨_, hmem, rfl⟩, rfl⟩

/-- The tokens among well-formed pieces are well formed. -/
theorem Piece.wellFormed_of_mem_tokensOf {pieces : List (Spanned Piece)}
    (hpieces : ∀ piece ∈ pieces, piece.value.WellFormed) :
    ∀ token ∈ tokensOf pieces, token.WellFormed := by
  intro token htoken
  obtain ⟨span, hmem⟩ := (mem_tokensOf_iff token pieces).mp htoken
  exact hpieces _ hmem

/-- Number of tokens of a kind. -/
def Token.countKind (kind : TokenKind) (tokens : List Token) : Nat :=
  tokens.countP (·.kind == kind)

/-- The greatest number of characters in the text of a token of a kind. -/
def Token.longest (kind : TokenKind) (tokens : List Token) : Nat :=
  ((tokens.filter (·.kind == kind)).map (·.text.length)).foldl max 0

/-- The texts of the operators among tokens, in order. -/
def Token.operatorsOf (tokens : List Token) : List String :=
  (tokens.filter (·.kind == .operator)).map (·.text)

/-- Whether a piece is a separator. -/
def Piece.isSeparator : Piece → Bool
  | separator _ => true
  | _ => false

/-- Whether a piece is a character outside every class. -/
def Piece.isStray : Piece → Bool
  | stray _ => true
  | _ => false

/-- Whether a piece is a string that is never closed. -/
def Piece.isOpenString : Piece → Bool
  | openString _ => true
  | _ => false

/-- Bytes of a piece that is no token. -/
def Piece.skipped (piece : Spanned Piece) : Nat :=
  match piece.value with
  | token _ => 0
  | _ => piece.span.length

theorem foldl_max (start : Nat) (lengths : List Nat) :
    lengths.foldl max start = max start (lengths.foldl max 0) := by
  induction lengths generalizing start with
  | nil => simp
  | cons length lengths ih =>
    rw [List.foldl_cons, List.foldl_cons, ih, ih (max 0 length)]
    omega

theorem Token.countKind_append (kind : TokenKind) (first second : List Token) :
    countKind kind (first ++ second) = countKind kind first + countKind kind second :=
  List.countP_append

theorem Token.operatorsOf_append (first second : List Token) :
    operatorsOf (first ++ second) = operatorsOf first ++ operatorsOf second := by
  simp [operatorsOf]

theorem Token.longest_append (kind : TokenKind) (first second : List Token) :
    longest kind (first ++ second) = max (longest kind first) (longest kind second) := by
  simp only [longest, List.filter_append, List.map_append, List.foldl_append]
  exact foldl_max _ _

theorem Piece.tokensOf_concat_token (pieces : List (Spanned Piece)) (t : Token) (span : Span) :
    tokensOf (pieces ++ [⟨.token t, span⟩]) = tokensOf pieces ++ [t] :=
  tokensOf_append pieces _

theorem Piece.tokensOf_concat_other (pieces : List (Spanned Piece)) (piece : Spanned Piece)
    (hother : spannedToken? piece = none) : tokensOf (pieces ++ [piece]) = tokensOf pieces := by
  simp [tokensOf, hother]

theorem Token.countKind_concat (kind : TokenKind) (tokens : List Token) (t : Token) :
    countKind kind (tokens ++ [t]) = countKind kind tokens + if t.kind = kind then 1 else 0 := by
  rw [countKind_append]
  simp [countKind, List.countP_cons]

theorem Token.longest_concat (kind : TokenKind) (tokens : List Token) (t : Token) :
    longest kind (tokens ++ [t]) =
      if t.kind = kind then max (longest kind tokens) t.text.length else longest kind tokens := by
  by_cases hkind : t.kind = kind <;> simp [longest, hkind]

theorem Token.operatorsOf_concat (tokens : List Token) (t : Token) :
    operatorsOf (tokens ++ [t]) =
      operatorsOf tokens ++ if t.kind = .operator then [t.text] else [] := by
  rw [operatorsOf_append]
  by_cases hkind : t.kind = .operator <;> simp [operatorsOf, hkind]

/-! ### The counters of a scan -/

namespace ScanMetrics

/-- The counters of pieces, each counted by itself. -/
def tally (settings : ScanSettings) (pieces : List (Spanned Piece)) : ScanMetrics :=
  let tokens := Piece.tokensOf pieces
  let detailed (count : Nat) : Nat := if settings.detailedMetrics then count else 0
  { totalTokens := tokens.length
    numberTokens := detailed (Token.countKind .number tokens)
    wordTokens := detailed (Token.countKind .word tokens)
    stringTokens := detailed (Token.countKind .string tokens)
    operatorTokens := detailed (Token.countKind .operator tokens)
    delimiterTokens := detailed (Token.countKind .delimiter tokens)
    pairOperators := detailed (tokens.countP Token.isPairOperator)
    longestString := detailed (Token.longest .string tokens)
    longestWord := detailed (Token.longest .word tokens)
    separatorsSkipped := pieces.countP (·.value.isSeparator)
    charactersDropped := pieces.countP (·.value.isStray)
    unterminatedStrings := pieces.countP (·.value.isOpenString)
    skippedBytes := (pieces.map Piece.skipped).sum
    operatorUses :=
      if settings.trackOperators then
        (Token.operatorsOf tokens).foldl (countUse Limits.current.maxTrackedOperators) .empty
      else .empty }

/-- One more piece adds to the counters what recording it adds. -/
theorem tally_concat (settings : ScanSettings) (pieces : List (Spanned Piece))
    (piece : Spanned Piece) :
    tally settings (pieces ++ [piece]) = (tally settings pieces).record settings piece := by
  obtain ⟨value, span⟩ := piece
  obtain ⟨mode, detailed, track, logDropped⟩ := settings
  cases value with
  | token t =>
    obtain ⟨kind, body⟩ := t
    cases kind <;> cases detailed <;> cases track <;>
      simp [tally, record, recordToken, recordKind, recordUse, Piece.tokensOf_concat_token,
        Token.countKind_concat, Token.longest_concat, Token.operatorsOf_concat,
        Token.isPairOperator, Piece.isSeparator, Piece.isStray, Piece.isOpenString, Piece.skipped,
        List.countP_cons]
  | separator c =>
    have htokens := Piece.tokensOf_concat_other pieces ⟨.separator c, span⟩ rfl
    simp [tally, record, htokens, Piece.isSeparator, Piece.isStray, Piece.isOpenString,
      Piece.skipped]
  | stray c =>
    have htokens := Piece.tokensOf_concat_other pieces ⟨.stray c, span⟩ rfl
    simp [tally, record, htokens, Piece.isSeparator, Piece.isStray, Piece.isOpenString,
      Piece.skipped]
  | openString cs =>
    have htokens := Piece.tokensOf_concat_other pieces ⟨.openString cs, span⟩ rfl
    simp [tally, record, htokens, Piece.isSeparator, Piece.isStray, Piece.isOpenString,
      Piece.skipped]

/-- Gathering counters piece by piece gives what they count. -/
theorem ofPieces_eq_tally (settings : ScanSettings) (pieces : List (Spanned Piece)) :
    ofPieces settings pieces = tally settings pieces := by
  induction pieces using List.reverseRecOn with
  | nil =>
    obtain ⟨mode, detailed, track, logDropped⟩ := settings
    cases detailed <;> cases track <;> rfl
  | append_singleton pieces piece ih =>
    rw [tally_concat, ← ih, ofPieces, ofPieces, List.foldl_append]
    rfl

end ScanMetrics

/-! ### Counting texts one after the other -/

section Counting

variable {limit : Nat} {uses : Dictionary Nat} {texts : List String} {text : String}

theorem countUse_of_takes (htakes : Takes limit uses text) :
    countUse limit uses text = uses.insert text ((uses.get? text).getD 0 + 1) := by
  rw [countUse]
  cases hfound : uses.get? text with
  | some count => rfl
  | none =>
    have hunknown : text ∉ uses.keys := (Dictionary.get?_eq_none_iff uses text).mp hfound
    exact if_pos (htakes.resolve_left hunknown)

theorem countUse_of_not_takes (hrefused : ¬ Takes limit uses text) :
    countUse limit uses text = uses := by
  have hnone : uses.get? text = none :=
    (Dictionary.get?_eq_none_iff uses text).mpr fun hknown ↦ hrefused (Or.inl hknown)
  rw [countUse, hnone]
  exact if_neg fun hroom ↦ hrefused (Or.inr hroom)

/-- The dictionary counts these texts: it knows the first distinct ones, as many as the limit
allows, and of each of them how often it occurs among all texts. -/
structure CountsFirst (limit : Nat) (texts : List String) (uses : Dictionary Nat) : Prop where
  keys_perm : uses.keys.Perm (firstKeys limit texts)
  get?_eq : ∀ key ∈ uses.keys, uses.get? key = some (texts.count key)

theorem countsFirst_empty (limit : Nat) : CountsFirst limit [] .empty where
  keys_perm := by rw [Dictionary.firstKeys_nil]; rfl
  get?_eq _ hmem := absurd hmem List.not_mem_nil

/-- What is known of a text that is taken in is complete: one that finds room only now has not
occurred before. -/
theorem CountsFirst.getD_get?_eq (hcounts : CountsFirst limit texts uses)
    (htakes : Takes limit uses text) : (uses.get? text).getD 0 = texts.count text := by
  by_cases hknown : text ∈ uses.keys
  · rw [hcounts.get?_eq text hknown, Option.getD_some]
  · have hroom : uses.size < limit := htakes.resolve_left hknown
    have hnone : uses.get? text = none := (Dictionary.get?_eq_none_iff uses text).mpr hknown
    have hfresh : text ∉ texts := fun hmem ↦
      hknown ((Dictionary.mem_keys_iff_of_room hcounts.keys_perm hroom).mpr hmem)
    rw [hnone, Option.getD_none, List.count_eq_zero.mpr hfresh]

/-- Counting one more text. -/
theorem CountsFirst.concat (hcounts : CountsFirst limit texts uses) (text : String) :
    CountsFirst limit (texts ++ [text]) (countUse limit uses text) := by
  by_cases htakes : Takes limit uses text
  · rw [countUse_of_takes htakes, hcounts.getD_get?_eq htakes]
    refine ⟨Dictionary.keys_insert_perm hcounts.keys_perm htakes _, fun key hkey ↦ ?_⟩
    by_cases hsame : key = text
    · simp [hsame]
    · have hearlier : key ∈ uses.keys :=
        ((Dictionary.mem_keys_insert uses text key _).mp hkey).resolve_left hsame
      simp [hsame, Ne.symm hsame, hcounts.get?_eq key hearlier]
  · rw [countUse_of_not_takes htakes]
    have hkeys := Dictionary.firstKeys_concat_of_full hcounts.keys_perm htakes
    refine ⟨hkeys.symm ▸ hcounts.keys_perm, fun key hkey ↦ ?_⟩
    have hother : text ≠ key := fun hsame ↦ htakes (Or.inl (hsame ▸ hkey))
    rw [hcounts.get?_eq key hkey, List.count_append, List.count_singleton, beq_false_of_ne hother]
    rfl

/-- Counting texts one after the other. -/
theorem countsFirst_foldl (limit : Nat) (texts : List String) :
    CountsFirst limit texts (texts.foldl (countUse limit) .empty) := by
  induction texts using List.reverseRecOn with
  | nil => exact countsFirst_empty limit
  | append_singleton texts text ih =>
    rw [List.foldl_append]
    exact ih.concat text

theorem CountsFirst.get?_eq_ite (hcounts : CountsFirst limit texts uses) (key : String) :
    uses.get? key = if key ∈ firstKeys limit texts then some (texts.count key) else none := by
  have hkeys : key ∈ uses.keys ↔ key ∈ firstKeys limit texts := hcounts.keys_perm.mem_iff
  split_ifs with hfirst
  · exact hcounts.get?_eq key (hkeys.mpr hfirst)
  · exact (Dictionary.get?_eq_none_iff uses key).mpr (hfirst ∘ hkeys.mp)

end Counting

/-! ### Uses of operators -/

/-- The texts that an operator can have. -/
def operatorTexts : List String :=
  operatorChars.map String.singleton ++ pairOperators

/-- An operator has one of ten characters or is one of six pairs. -/
theorem length_operatorTexts : operatorTexts.length = 10 + 6 := by
  decide

/-- No more operators can occur than may be counted. -/
theorem length_operatorTexts_le : operatorTexts.length ≤ Limits.current.maxTrackedOperators :=
  length_operatorTexts.le.trans Limits.ample_current.le_maxTrackedOperators

theorem Token.WellFormed.text_mem_operatorTexts {token : Token} (htoken : token.WellFormed)
    (hkind : token.kind = .operator) : token.text ∈ operatorTexts := by
  unfold Token.WellFormed at htoken
  rw [hkind] at htoken
  rcases htoken with ⟨c, hc, htext⟩ | ⟨pair, hpair, htext⟩
  · refine List.mem_append_left _ (List.mem_map.mpr ⟨c, hc, ?_⟩)
    rw [← String.toList_inj, htext, String.toList_singleton]
  · rw [String.toList_inj.mp htext]
    exact List.mem_append_right _ hpair

/-- A count as it is kept: not at all when there is nothing to count. -/
def positive? (count : Nat) : Option Nat :=
  if count = 0 then none else some count

theorem merge_positive? (first second : Nat) :
    Option.merge (· + ·) (positive? first) (positive? second) = positive? (first + second) := by
  unfold positive?
  split_ifs <;> simp_all

theorem positive?_eq_none_iff (count : Nat) : positive? count = none ↔ count = 0 := by
  unfold positive?
  split_ifs with hcount <;> simp [hcount]

/-- Uses of operators from a table that is not too long are counted exactly. -/
theorem get?_foldl_countUse {limit : Nat} {table : List String} (htable : table.length ≤ limit)
    (texts : List String) (htexts : ∀ text ∈ texts, text ∈ table) (key : String) :
    (texts.foldl (countUse limit) .empty).get? key = positive? (texts.count key) := by
  simp only [(countsFirst_foldl limit texts).get?_eq_ite,
    Dictionary.mem_firstKeys_of_subset htexts htable, positive?, List.count_eq_zero, ite_not]

/-- When uses of operators are counted, each operator is counted as often as it occurs. -/
theorem get?_operatorUses (settings : ScanSettings) (pieces : List (Spanned Piece))
    (hpieces : ∀ piece ∈ pieces, piece.value.WellFormed) (key : String) :
    (ScanMetrics.ofPieces settings pieces).operatorUses.get? key =
      if settings.trackOperators then
        positive? ((Token.operatorsOf (Piece.tokensOf pieces)).count key)
      else none := by
  rw [ScanMetrics.ofPieces_eq_tally, ScanMetrics.tally]
  by_cases htrack : settings.trackOperators = true
  · simp only [htrack, if_true]
    refine get?_foldl_countUse length_operatorTexts_le _ (fun text htext ↦ ?_) key
    obtain ⟨token, htoken, rfl⟩ := List.mem_map.mp htext
    obtain ⟨htoken, hkind⟩ := List.mem_filter.mp htoken
    exact (Piece.wellFormed_of_mem_tokensOf hpieces token htoken).text_mem_operatorTexts
      (beq_iff_eq.mp hkind)
  · simp [htrack]

end Lexeme
