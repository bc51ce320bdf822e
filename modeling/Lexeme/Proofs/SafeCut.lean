import Lexeme.Proofs.Separation

/-!
# Cutting a source in two

A source may be cut in two and its parts scanned by themselves, as long as no string is open at the
cut and no token is cut (`SafeCut`). Whether a token is cut can be seen from the last token before
the cut and one character after it (`SafeCut.endsBefore`), and then the scan of the source is made
of the scans of its parts: tokens and troubles follow one another, and the counters combine
(`ScanMetrics.Combines`).
-/

set_option autoImplicit false
set_option relaxedAutoImplicit false

namespace Lexeme

open Text (isDecimalDigit)

/-! ### Counters that combine -/

/-- The counters of the whole add up those of two parts, lengths are the greater of the two, and
uses of operators add up for each operator. -/
structure ScanMetrics.Combines (first second whole : ScanMetrics) : Prop where
  totalTokens : whole.totalTokens = first.totalTokens + second.totalTokens
  numberTokens : whole.numberTokens = first.numberTokens + second.numberTokens
  wordTokens : whole.wordTokens = first.wordTokens + second.wordTokens
  stringTokens : whole.stringTokens = first.stringTokens + second.stringTokens
  operatorTokens : whole.operatorTokens = first.operatorTokens + second.operatorTokens
  delimiterTokens : whole.delimiterTokens = first.delimiterTokens + second.delimiterTokens
  pairOperators : whole.pairOperators = first.pairOperators + second.pairOperators
  longestString : whole.longestString = max first.longestString second.longestString
  longestWord : whole.longestWord = max first.longestWord second.longestWord
  separatorsSkipped : whole.separatorsSkipped = first.separatorsSkipped + second.separatorsSkipped
  charactersDropped : whole.charactersDropped = first.charactersDropped + second.charactersDropped
  unterminatedStrings :
    whole.unterminatedStrings = first.unterminatedStrings + second.unterminatedStrings
  skippedBytes : whole.skippedBytes = first.skippedBytes + second.skippedBytes
  operatorUses : ∀ operator, whole.operatorUses.get? operator =
    Option.merge (· + ·) (first.operatorUses.get? operator) (second.operatorUses.get? operator)

/-- Counters do not depend on where the pieces are. -/
theorem ScanMetrics.tally_map_shift (settings : ScanSettings) (bytes : Nat)
    (pieces : List (Spanned Piece)) :
    tally settings (pieces.map (Spanned.shift bytes)) = tally settings pieces := by
  have hskipped : Piece.skipped ∘ Spanned.shift bytes = Piece.skipped := by
    funext piece
    obtain ⟨value, span⟩ := piece
    cases value <;> simp [Piece.skipped, Spanned.shift, Span.length_shift]
  unfold tally
  rw [Piece.tokensOf_map_shift, List.map_map, hskipped, List.countP_map, List.countP_map,
    List.countP_map]
  rfl

/-- The uses of an operator among pieces put together are those among each. -/
theorem get?_operatorUses_append (settings : ScanSettings) {first second : List (Spanned Piece)}
    (hfirst : ∀ piece ∈ first, piece.value.WellFormed)
    (hsecond : ∀ piece ∈ second, piece.value.WellFormed) (operator : String) :
    (ScanMetrics.tally settings (first ++ second)).operatorUses.get? operator =
      Option.merge (· + ·) ((ScanMetrics.tally settings first).operatorUses.get? operator)
        ((ScanMetrics.tally settings second).operatorUses.get? operator) := by
  have hboth : ∀ piece ∈ first ++ second, piece.value.WellFormed :=
    List.forall_mem_append.mpr ⟨hfirst, hsecond⟩
  simp only [← ScanMetrics.ofPieces_eq_tally]
  rw [get?_operatorUses settings _ hboth, get?_operatorUses settings _ hfirst,
    get?_operatorUses settings _ hsecond, Piece.tokensOf_append, Token.operatorsOf_append,
    List.count_append]
  by_cases htrack : settings.trackOperators = true
  · simp only [htrack, if_true]
    exact (merge_positive? _ _).symm
  · simp [htrack]

/-- The counters of pieces put together combine those of each. -/
theorem ScanMetrics.combines_tally (settings : ScanSettings) {first second : List (Spanned Piece)}
    (hfirst : ∀ piece ∈ first, piece.value.WellFormed)
    (hsecond : ∀ piece ∈ second, piece.value.WellFormed) :
    Combines (tally settings first) (tally settings second) (tally settings (first ++ second)) := by
  have huses := get?_operatorUses_append settings hfirst hsecond
  obtain ⟨mode, detailed, track, logDropped⟩ := settings
  constructor
  case operatorUses => exact huses
  all_goals
    cases detailed <;> simp [tally, Piece.tokensOf_append, Token.countKind_append,
      Token.longest_append, List.countP_append]

/-! ### Safe cuts -/

/-- A source in which no string is open may be cut where no token is: one of the parts holds nothing
to cut, or the second part does not continue the last token of the first. -/
inductive SafeCut (settings : ScanSettings) (first second : String) : Prop where
  | empty (hempty : second = "")
  | gap (hgap : ∀ token ∈ (scan settings first).tokens, token.span.stop ≠ first.utf8ByteSize)
  | string (last : Spanned Token) (hlast : last ∈ (scan settings first).tokens.getLast?)
    (hkind : last.value.kind = .string)
  | delimiter (last : Spanned Token) (hlast : last ∈ (scan settings first).tokens.getLast?)
    (hkind : last.value.kind = .delimiter)
  | pairOperator (last : Spanned Token) (hlast : last ∈ (scan settings first).tokens.getLast?)
    (hpair : last.value.isPairOperator = true)
  | number (last : Spanned Token) (hlast : last ∈ (scan settings first).tokens.getLast?)
    (hkind : last.value.kind = .number)
    (hnext : ∀ c ∈ second.toList.head?, isDecimalDigit c = false)
  | word (last : Spanned Token) (hlast : last ∈ (scan settings first).tokens.getLast?)
    (hkind : last.value.kind = .word)
    (hnext : ∀ c ∈ second.toList.head?, isWordContinue c = false)
  | operator (last : Spanned Token) (hlast : last ∈ (scan settings first).tokens.getLast?)
    (hkind : last.value.kind = .operator) (c : Char) (hsingle : last.value.text.toList = [c])
    (hnext : ∀ d ∈ second.toList.head?, completesPair c d = false)

/-- Nothing continues an operator of two characters. -/
theorem Token.endsBefore_of_isPairOperator {token : Token} (hpair : token.isPairOperator = true)
    (next : Option Char) : token.EndsBefore next := by
  obtain ⟨kind, body⟩ := token
  obtain ⟨hkind, hbody⟩ := Bool.and_eq_true_iff.mp hpair
  obtain rfl : kind = .operator := beq_iff_eq.mp hkind
  obtain ⟨c, _, d, _, htext⟩ := exists_of_mem_pairOperators body (List.contains_iff_mem.mp hbody)
  intro e _ first hfirst
  rw [htext] at hfirst
  cases hfirst

theorem Piece.wellFormed_of_mem_ofSource (source : String) :
    ∀ piece ∈ ofSource source, piece.value.WellFormed :=
  wellFormed_of_mem_located

/-- The last piece of a text stops where the text does. -/
theorem Piece.stop_of_getLast?_located {offset : Nat} {cs : List Char} {piece : Spanned Piece}
    (hlast : piece ∈ (located offset cs).getLast?) :
    piece.span.stop = offset + Text.byteWidth cs := by
  obtain ⟨pieces, _, rfl, hlocated⟩ := exists_located_eq_place cs
  rw [hlocated] at hlast
  cases pieces using List.reverseRecOn with
  | nil => cases hlast
  | append_singleton pieces last =>
    rw [place_append, place, place, List.getLast?_concat] at hlast
    obtain rfl := Option.some.inj hlast
    rw [textOf_append, textOf_cons, textOf_nil, List.append_nil, Text.byteWidth_append,
      ← width_eq, ← Nat.add_assoc]

/-- When the last piece of a source is a token, it is the last token of a scan. -/
theorem Piece.getLast?_tokens_scan (settings : ScanSettings) {source : String} {t : Token}
    {span : Span} (hlast : ⟨.token t, span⟩ ∈ (ofSource source).getLast?) :
    (scan settings source).tokens.getLast? = some ⟨t, span⟩ := by
  obtain ⟨init, hinit⟩ := List.getLast?_eq_some_iff.mp hlast
  rw [tokens_scan, hinit, List.filterMap_append]
  exact List.getLast?_concat

/-- A token that reaches to a safe cut ends there. -/
theorem SafeCut.endsBefore_head? {settings : ScanSettings} {first second : String}
    (hcut : SafeCut settings first second) {token : Spanned Token}
    (htoken : (scan settings first).tokens.getLast? = some token)
    (hstop : token.span.stop = first.utf8ByteSize) :
    token.value.EndsBefore second.toList.head? := by
  cases hcut with
  | empty hempty =>
    rw [hempty]
    exact token.value.endsBefore_none
  | gap hgap => exact absurd hstop (hgap token (List.mem_of_getLast? htoken))
  | string last hlast hkind =>
    obtain rfl := Option.some.inj (htoken.symm.trans hlast)
    simp only [Token.EndsBefore, hkind]
  | delimiter last hlast hkind =>
    obtain rfl := Option.some.inj (htoken.symm.trans hlast)
    simp only [Token.EndsBefore, hkind]
  | pairOperator last hlast hpair =>
    exact Option.some.inj (htoken.symm.trans hlast) ▸ Token.endsBefore_of_isPairOperator hpair _
  | number last hlast hkind hnext =>
    obtain rfl := Option.some.inj (htoken.symm.trans hlast)
    simpa only [Token.EndsBefore, hkind] using hnext
  | word last hlast hkind hnext =>
    obtain rfl := Option.some.inj (htoken.symm.trans hlast)
    simpa only [Token.EndsBefore, hkind] using hnext
  | operator last hlast hkind c hsingle hnext =>
    obtain rfl := Option.some.inj (htoken.symm.trans hlast)
    simp only [Token.EndsBefore, hkind]
    intro d hd e he
    obtain ⟨rfl, -⟩ := List.cons.inj (hsingle.symm.trans he)
    exact hnext d hd

/-- At a safe cut the last piece before it ends. -/
theorem SafeCut.endsBefore {settings : ScanSettings} {first second : String}
    (hcut : SafeCut settings first second)
    (hclosed : (scan settings first).metrics.unterminatedStrings = 0) :
    ∀ piece ∈ (Piece.ofSource first).getLast?, piece.value.EndsBefore second.toList := by
  rintro ⟨value, span⟩ hpiece
  cases value with
  | separator c => trivial
  | stray c => trivial
  | openString cs =>
    rw [metrics_scan] at hclosed
    have hopen := List.countP_eq_zero.mp hclosed _ (List.mem_of_getLast? hpiece)
    exact absurd rfl hopen
  | token t =>
    have hstop := Piece.stop_of_getLast?_located hpiece
    rw [Nat.zero_add, Text.byteWidth_toList] at hstop
    exact hcut.endsBefore_head? (Piece.getLast?_tokens_scan settings hpiece) hstop

/-! ### The scan of a source cut in two -/

/-- The pieces of a source cut in two are those of its parts. -/
theorem Piece.ofSource_append {settings : ScanSettings} {first second : String}
    (hcut : SafeCut settings first second)
    (hclosed : (scan settings first).metrics.unterminatedStrings = 0) :
    ofSource (first ++ second) =
      ofSource first ++ (ofSource second).map (Spanned.shift first.utf8ByteSize) := by
  have hshift := located_add 0 first.utf8ByteSize second.toList
  rw [ofSource, String.toList_append, located_append 0 (hcut.endsBefore hclosed),
    Text.byteWidth_toList, hshift, ofSource, ofSource]

/-- Keeping the first of two lists put together needs no more than the first of each. -/
theorem take_append_take {α : Type} (limit : Nat) (first second : List α) :
    (first ++ second).take limit = (first.take limit ++ second.take limit).take limit := by
  rw [List.take_append, List.take_append, List.take_take, List.take_take, List.length_take,
    Nat.min_self]
  congr 2
  omega

/-- The scan of a source that is cut in two at a safe place is made of the scans of its parts: the
tokens of the second part follow those of the first; so do the troubles, of which the first are
kept and none is left uncounted; and the counters combine. -/
theorem scan_append (settings : ScanSettings) (first second : String)
    (hclosed : (scan settings first).metrics.unterminatedStrings = 0)
    (hcut : SafeCut settings first second) :
    let before := scan settings first
    let after := scan settings second
    let whole := scan settings (first ++ second)
    whole.tokens = before.tokens ++ after.tokens.map (Spanned.shift first.utf8ByteSize) ∧
    whole.diagnostics =
      (before.diagnostics ++ after.diagnostics.map (Diagnostic.shift first.utf8ByteSize)).take
        Limits.current.maxDiagnostics ∧
    whole.diagnosticCount = before.diagnosticCount + after.diagnosticCount ∧
    before.metrics.Combines after.metrics whole.metrics := by
  intro before after whole
  have hpieces := Piece.ofSource_append hcut hclosed
  have htroubles : Diagnostic.ofSource (first ++ second) = Diagnostic.ofSource first ++
      (Diagnostic.ofSource second).map (Diagnostic.shift first.utf8ByteSize) := by
    rw [Diagnostic.ofSource_eq, hpieces, List.filterMap_append,
      Diagnostic.filterMap_ofPiece?_shift, ← Diagnostic.ofSource_eq, ← Diagnostic.ofSource_eq]
  refine ⟨?_, ?_, ?_, ?_⟩
  · rw [tokens_scan, hpieces, List.filterMap_append, Piece.filterMap_spannedToken?_shift,
      ← tokens_scan settings, ← tokens_scan settings]
  · rw [diagnostics_scan, htroubles, take_append_take, diagnostics_scan, diagnostics_scan,
      List.map_take]
  · rw [diagnosticCount_scan, diagnosticCount_scan, diagnosticCount_scan, htroubles,
      List.length_append, List.length_map]
  · have hsecond : ∀ piece ∈ (Piece.ofSource second).map (Spanned.shift first.utf8ByteSize),
        piece.value.WellFormed :=
      List.forall_mem_map.mpr (Piece.wellFormed_of_mem_ofSource second)
    have hcombines := ScanMetrics.combines_tally settings
      (Piece.wellFormed_of_mem_ofSource first) hsecond
    rwa [ScanMetrics.tally_map_shift, ← hpieces, ← metrics_scan, ← metrics_scan,
      ← metrics_scan] at hcombines

/-- A cut behind an operator of one character, before one that does not complete it. -/
theorem scan_append_operator :
    let first := "é \"a\" @ 12 <"
    let second := "<= x_1;"
    (scan .builtIn first).metrics.unterminatedStrings = 0 ∧ SafeCut .builtIn first second ∧
      (scan .builtIn (first ++ second)).tokens =
        (scan .builtIn first).tokens ++ (scan .builtIn second).tokens.map (Spanned.shift 13) ∧
      (scan .builtIn first).metrics.Combines (scan .builtIn second).metrics
        (scan .builtIn (first ++ second)).metrics := by
  intro first second
  have hclosed : (scan .builtIn first).metrics.unterminatedStrings = 0 := by decide +kernel
  have hlast : (scan .builtIn first).tokens.getLast? = some ⟨⟨.operator, "<"⟩, 12, 13⟩ := by
    decide +kernel
  have hnext : second.toList.head? = some '<' := by decide +kernel
  have hcut : SafeCut .builtIn first second := by
    refine .operator _ hlast rfl '<' rfl ?_
    rw [hnext]
    rintro _ ⟨⟩
    decide
  obtain ⟨htokens, _, _, hcombines⟩ := scan_append .builtIn first second hclosed hcut
  exact ⟨hclosed, hcut, htokens, hcombines⟩

end Lexeme
