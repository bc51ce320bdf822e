import Lexeme.Proofs.Places
import Lexeme.Proofs.Processing
import Mathlib.Algebra.BigOperators.Group.List.Basic

/-!
# The counters of a scan and its output

The counters are gathered while a scan goes through its source, and most of them can be counted
again in its output: tokens by kind (`TokenCounts.ofTokens_eq`), operators of two characters
(`Token.WellFormed.isPairOperator_iff`), greatest lengths (`Token.longest_eq_max?`), troubles
(`Piece.countP_troubles`) and the bytes between tokens (`Piece.sum_skipped_add_sum_tokens`). Every
piece takes at least one byte (`Piece.sum_length_le_of_prefix`), so no counter exceeds the length of
the source in bytes, neither at the end nor at any time before (`ScanMetrics.atMost_tally`).
-/

set_option autoImplicit false
set_option relaxedAutoImplicit false

namespace Lexeme

open Text (byteWidth)

/-! ### Counting tokens again -/

/-- Counting tokens one by one gives the number of each kind. -/
theorem TokenCounts.ofTokens_eq (tokens : List Token) :
    ofTokens tokens =
      { total := tokens.length
        numbers := Token.countKind .number tokens
        words := Token.countKind .word tokens
        strings := Token.countKind .string tokens
        operators := Token.countKind .operator tokens
        delimiters := Token.countKind .delimiter tokens } := by
  induction tokens using List.reverseRecOn with
  | nil => rfl
  | append_singleton tokens t ih =>
    have hadd : ofTokens (tokens ++ [t]) = (ofTokens tokens).add t.kind := by
      rw [ofTokens, List.foldl_append]
      rfl
    obtain ⟨kind, body⟩ := t
    rw [hadd, ih]
    cases kind <;> simp [add, Token.countKind_concat]

/-- The greatest length is the maximum of the lengths, or zero when there is none. -/
theorem Token.longest_eq_max? (kind : TokenKind) (tokens : List Token) :
    longest kind tokens =
      ((tokens.filter (·.kind == kind)).map (·.text.length)).max?.getD 0 := by
  rw [longest]
  cases (tokens.filter (·.kind == kind)).map (·.text.length) with
  | nil => rfl
  | cons length lengths =>
    rw [List.max?_cons', Option.getD_some, List.foldl_cons, Nat.zero_max]

/-- Among well-formed tokens the operators of two characters are those of the table. -/
theorem Token.WellFormed.isPairOperator_iff {token : Token} (htoken : token.WellFormed) :
    token.isPairOperator = true ↔ token.kind = .operator ∧ token.text.length = 2 := by
  obtain ⟨kind, body⟩ := token
  rw [Token.isPairOperator, Bool.and_eq_true_iff, beq_iff_eq]
  refine and_congr_right fun hkind ↦ ?_
  obtain rfl : kind = .operator := hkind
  dsimp only
  rw [← String.length_toList]
  constructor
  · intro hpair
    obtain ⟨c, -, d, -, htext⟩ := exists_of_mem_pairOperators body (List.contains_iff_mem.mp hpair)
    rw [htext]
    rfl
  · intro hlength
    rcases htoken with ⟨c, -, htext⟩ | ⟨pair, hpair, htext⟩
    · dsimp only at htext
      rw [htext] at hlength
      cases hlength
    · obtain rfl : body = pair := String.toList_inj.mp htext
      exact List.contains_iff_mem.mpr hpair

namespace Piece

/-- Each trouble is a stray character or an open string. -/
theorem countP_troubles (pieces : List (Spanned Piece)) :
    pieces.countP (·.value.isStray) + pieces.countP (·.value.isOpenString) =
      (pieces.filterMap Diagnostic.ofPiece?).length := by
  induction pieces with
  | nil => rfl
  | cons piece pieces ih =>
    obtain ⟨value, span⟩ := piece
    cases value <;>
      simp [isStray, isOpenString, Diagnostic.ofPiece?, List.filterMap_cons, ← ih] <;> omega

/-- Every byte of a piece is one of a token or is skipped. -/
theorem sum_skipped_add_sum_tokens (pieces : List (Spanned Piece)) :
    (pieces.map skipped).sum + ((pieces.filterMap spannedToken?).map (·.span.length)).sum =
      (pieces.map (·.span.length)).sum := by
  induction pieces with
  | nil => rfl
  | cons piece pieces ih =>
    obtain ⟨value, span⟩ := piece
    cases value <;> simp [skipped, List.filterMap_cons] <;> omega

theorem sum_length_place (offset : Nat) (pieces : List Piece) :
    ((place offset pieces).map (·.span.length)).sum = byteWidth (textOf pieces) := by
  induction pieces generalizing offset with
  | nil => rfl
  | cons piece pieces ih =>
    rw [place, List.map_cons, List.sum_cons, ih, textOf_cons, Text.byteWidth_append, ← width_eq]
    simp [Span.length]

/-- The pieces of a source take all its bytes. -/
theorem sum_length_ofSource (source : String) :
    ((ofSource source).map (·.span.length)).sum = source.utf8ByteSize := by
  obtain ⟨pieces, -, htext, hlocated⟩ := exists_located_eq_place source.toList
  rw [ofSource, hlocated, sum_length_place, htext, Text.byteWidth_toList]

end Piece

/-! ### Counters that cannot overflow -/

/-- No counter exceeds the limit. -/
structure ScanMetrics.AtMost (limit : Nat) (metrics : ScanMetrics) : Prop where
  totalTokens : metrics.totalTokens ≤ limit
  numberTokens : metrics.numberTokens ≤ limit
  wordTokens : metrics.wordTokens ≤ limit
  stringTokens : metrics.stringTokens ≤ limit
  operatorTokens : metrics.operatorTokens ≤ limit
  delimiterTokens : metrics.delimiterTokens ≤ limit
  pairOperators : metrics.pairOperators ≤ limit
  longestString : metrics.longestString ≤ limit
  longestWord : metrics.longestWord ≤ limit
  separatorsSkipped : metrics.separatorsSkipped ≤ limit
  charactersDropped : metrics.charactersDropped ≤ limit
  unterminatedStrings : metrics.unterminatedStrings ≤ limit
  skippedBytes : metrics.skippedBytes ≤ limit
  operatorUses : ∀ operator, ∀ count ∈ metrics.operatorUses.get? operator, count ≤ limit

theorem Text.length_le_byteWidth (cs : List Char) : cs.length ≤ byteWidth cs := by
  induction cs with
  | nil => exact Nat.le_refl _
  | cons c cs ih =>
    have hpos := Char.utf8Size_pos c
    rw [List.length_cons, byteWidth_cons]
    omega

theorem Token.length_text_le (t : Token) : t.text.length ≤ t.lexeme.length := by
  obtain ⟨kind, body⟩ := t
  rw [← String.length_toList]
  cases kind <;> simp only [lexeme, List.length_cons, List.length_append] <;> omega

theorem Token.longest_le {tokens : List Token} {limit : Nat}
    (htokens : ∀ t ∈ tokens, t.text.length ≤ limit) (kind : TokenKind) :
    longest kind tokens ≤ limit := by
  induction tokens using List.reverseRecOn with
  | nil => exact Nat.zero_le _
  | append_singleton tokens t ih =>
    have htoken := htokens t (List.mem_append_right _ List.mem_cons_self)
    have hrest := ih fun other hmem ↦ htokens other (List.mem_append_left _ hmem)
    rw [longest_concat]
    split_ifs
    · exact Nat.max_le.mpr ⟨hrest, htoken⟩
    · exact hrest

/-- The text of a token has no more characters than its source has bytes. -/
theorem Piece.length_text_le {source : String} {t : Token} {span : Span}
    (hmem : ⟨.token t, span⟩ ∈ ofSource source) : t.text.length ≤ source.utf8ByteSize := by
  have hstop := ((pairwise_ofSource source).1 _ hmem).2
  have hspan : span.stop = span.start + byteWidth t.lexeme := stop_of_mem_ofSource source hmem
  have htext := t.length_text_le
  have hlexeme := Text.length_le_byteWidth t.lexeme
  dsimp only at hstop
  omega

/-- The pieces that a scan has passed take no more bytes than its source has, and at least one byte
each. -/
theorem Piece.sum_length_le_of_prefix {source : String} {passed : List (Spanned Piece)}
    (hpassed : passed <+: ofSource source) :
    (passed.map (·.span.length)).sum ≤ source.utf8ByteSize ∧
      passed.length ≤ source.utf8ByteSize := by
  have hbytes : (passed.map (·.span.length)).sum ≤ source.utf8ByteSize := by
    obtain ⟨rest, hrest⟩ := hpassed
    rw [← sum_length_ofSource, ← hrest, List.map_append, List.sum_append]
    exact Nat.le_add_right _ _
  have hlength := List.length_le_sum_of_one_le (passed.map (·.span.length))
    (List.forall_mem_map.mpr fun piece hpiece ↦ by
      have hlt := ((pairwise_ofSource source).1 piece (hpassed.subset hpiece)).1
      rw [Span.length]
      omega)
  rw [List.length_map] at hlength
  exact ⟨hbytes, hlength.trans hbytes⟩

/-- While a scan goes through a source, and at its end, no counter exceeds the length of the source:
each piece that is counted takes a byte of it. -/
theorem ScanMetrics.atMost_tally (settings : ScanSettings) {source : String}
    {passed : List (Spanned Piece)} (hpassed : passed <+: Piece.ofSource source) :
    (tally settings passed).AtMost source.utf8ByteSize := by
  have hmem : ∀ piece ∈ passed, piece ∈ Piece.ofSource source :=
    fun _ hpiece ↦ hpassed.subset hpiece
  obtain ⟨hbytes, hpieces⟩ := Piece.sum_length_le_of_prefix hpassed
  have htokens : (Piece.tokensOf passed).length ≤ source.utf8ByteSize := by
    rw [Piece.tokensOf, List.length_map]
    exact (List.length_filterMap_le _ _).trans hpieces
  have hskipped : (passed.map Piece.skipped).sum ≤ source.utf8ByteSize := by
    have hsum := Piece.sum_skipped_add_sum_tokens passed
    omega
  have hlongest : ∀ t ∈ Piece.tokensOf passed, t.text.length ≤ source.utf8ByteSize := by
    intro t ht
    obtain ⟨span, hpiece⟩ := (Piece.mem_tokensOf_iff t passed).mp ht
    exact Piece.length_text_le (hmem _ hpiece)
  have hdetailed : ∀ count ≤ source.utf8ByteSize,
      (if settings.detailedMetrics then count else 0) ≤ source.utf8ByteSize := by
    intro count hcount
    split_ifs
    · exact hcount
    · exact Nat.zero_le _
  constructor
  case totalTokens => exact htokens
  case separatorsSkipped | charactersDropped | unterminatedStrings =>
    exact List.countP_le_length.trans hpieces
  case skippedBytes => exact hskipped
  case longestString | longestWord => exact hdetailed _ (Token.longest_le hlongest _)
  case operatorUses =>
    -- An operator is counted as often as it occurs, and so no more often than there are tokens.
    intro operator count hcount
    rw [← ofPieces_eq_tally, get?_operatorUses settings passed
      fun piece hpiece ↦ Piece.wellFormed_of_mem_located piece (hmem piece hpiece)] at hcount
    have hfound : count = (Token.operatorsOf (Piece.tokensOf passed)).count operator := by
      unfold positive? at hcount
      split_ifs at hcount <;> simp_all
    have huses : (Token.operatorsOf (Piece.tokensOf passed)).length ≤
        (Piece.tokensOf passed).length := by
      rw [Token.operatorsOf, List.length_map]
      exact List.length_filter_le _ _
    rw [hfound]
    exact List.count_le_length.trans (huses.trans htokens)
  all_goals exact hdetailed _ (List.countP_le_length.trans htokens)

/-! ### The counters of a scan -/

/-- What a scan has counted in the pieces it has passed, and how many troubles it has met there. -/
theorem ScanProgress.foldl_pass_start (settings : ScanSettings) (passed : List (Spanned Piece)) :
    (passed.foldl (pass settings) start).metrics = ScanMetrics.tally settings passed ∧
      (passed.foldl (pass settings) start).troubles.total =
        (passed.filterMap Diagnostic.ofPiece?).length := by
  rw [foldl_pass]
  refine ⟨ScanMetrics.ofPieces_eq_tally settings passed, ?_⟩
  have hholds := DiagnosticBuffer.holds_foldl_pushPiece passed
  have hsize := hholds.size_eq
  have hsuppressed := hholds.suppressed
  change (passed.foldl DiagnosticBuffer.pushPiece .empty).kept.size +
    (passed.foldl DiagnosticBuffer.pushPiece .empty).suppressed = _
  omega

/-- The counters of a scan agree with its output. When counters by kind are asked for they are the
numbers of tokens of each kind, of operators of two characters, and the greatest lengths of words
and strings. Whatever is asked for, the troubles counted are those found, kept or not, at most one
of them an unterminated string; the separators counted are the skipped ones of the source; and the
bytes that are skipped and those of tokens are all the bytes of the source. No counter exceeds the
length of the source in bytes, at the end or after any piece of it, and so none overflows before the
length does. -/
theorem counters_scan (settings : ScanSettings) (source : String) :
    let output := scan settings source
    let tokens := output.plainTokens
    let metrics := output.metrics
    (settings.detailedMetrics = true →
      TokenCounts.ofTokens tokens =
        ⟨metrics.totalTokens, metrics.numberTokens, metrics.wordTokens, metrics.stringTokens,
          metrics.operatorTokens, metrics.delimiterTokens⟩ ∧
      metrics.pairOperators = tokens.countP (fun t ↦ t.kind = .operator ∧ t.text.length = 2) ∧
      metrics.longestWord =
        ((tokens.filter (·.kind == .word)).map (·.text.length)).max?.getD 0 ∧
      metrics.longestString =
        ((tokens.filter (·.kind == .string)).map (·.text.length)).max?.getD 0) ∧
    metrics.totalTokens = output.tokens.length ∧
    (∀ chosen name metadata session,
      ((Pipeline.conclude chosen name metadata source output).run session).1.counts =
        TokenCounts.ofTokens tokens) ∧
    metrics.charactersDropped + metrics.unterminatedStrings =
      output.diagnostics.length + output.suppressed ∧
    metrics.unterminatedStrings ≤ 1 ∧
    metrics.separatorsSkipped = (skippedChars .whitespace source output.tokens).length ∧
    metrics.skippedBytes + (output.tokens.map (·.span.length)).sum = source.utf8ByteSize ∧
    metrics.AtMost source.utf8ByteSize ∧
    ∀ passed, passed <+: Piece.ofSource source →
      let progress := passed.foldl (ScanProgress.pass settings) .start
      progress.metrics.AtMost source.utf8ByteSize ∧
        progress.troubles.total ≤ source.utf8ByteSize := by
  intro output tokens metrics
  have hmetrics : metrics = ScanMetrics.tally settings (Piece.ofSource source) :=
    metrics_scan settings source
  have htokens : tokens = Piece.tokensOf (Piece.ofSource source) := plainTokens_scan settings source
  have htroubles : metrics.charactersDropped + metrics.unterminatedStrings =
      (Diagnostic.ofSource source).length := by
    rw [hmetrics, Diagnostic.ofSource_eq]
    exact Piece.countP_troubles _
  refine ⟨fun hdetailed ↦ ?_, ?_, fun chosen name metadata session ↦ ?_, ?_, ?_, ?_, ?_, ?_,
    fun passed hpassed ↦ ?_⟩
  · have hpairs : ∀ t ∈ tokens, t.isPairOperator = true ↔
        t.kind = .operator ∧ t.text.length = 2 := fun t ht ↦
      (wellFormed_of_mem_plainTokens settings source t ht).isPairOperator_iff
    rw [TokenCounts.ofTokens_eq, ← Token.longest_eq_max?, ← Token.longest_eq_max?, hmetrics]
    simp only [ScanMetrics.tally, hdetailed, if_true, ← htokens]
    refine ⟨trivial, List.countP_congr fun t ht ↦ ?_, trivial, trivial⟩
    rw [hpairs t ht, decide_eq_true_iff]
  · rw [hmetrics, ScanMetrics.tally, ← plainTokens_scan settings source]
    exact List.length_map _
  · rw [Pipeline.conclude_run]
    rfl
  · rw [htroubles]
    exact (diagnosticCount_scan settings source).symm
  · have hopen : metrics.unterminatedStrings = source.toList.count '"' % 2 := by
      rw [hmetrics]
      exact (counts_located 0 source.toList).2
    omega
  · rw [hmetrics]
    exact (length_skippedChars_whitespace settings source).symm
  · rw [hmetrics, tokens_scan, ← Piece.sum_length_ofSource source]
    exact Piece.sum_skipped_add_sum_tokens _
  · rw [hmetrics]
    exact ScanMetrics.atMost_tally settings List.prefix_rfl
  · obtain ⟨hprogress, htotal⟩ := ScanProgress.foldl_pass_start settings passed
    dsimp only
    rw [hprogress, htotal]
    have htroubles := List.length_filterMap_le Diagnostic.ofPiece? passed
    exact ⟨ScanMetrics.atMost_tally settings hpassed,
      htroubles.trans (Piece.sum_length_le_of_prefix hpassed).2⟩

end Lexeme
