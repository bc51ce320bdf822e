import Lexeme.Proofs.Accounting
import Mathlib.Algebra.BigOperators.Group.Finset.Basic

/-!
# The uses of operators in a scan

On request a scan counts the uses of each operator. No more operators can be counted than there is
room for, but the operators of a source have one of sixteen texts (`length_operatorTexts`), so there
is room for all of them and the counts are those of the whole output: a dictionary that holds the
counts of texts has them as its keys (`Text.Dictionary.keys_perm_dedup`), and its values add up to
the number of the texts, whichever of them are looked at (`Text.Dictionary.sum_values_filter`). The
uses counted in a scan are therefore complete (`operatorUses_scan`).

Of texts that need not be operators, more than there is room for may be recorded. Then the first
distinct ones are counted, completely, and the others not at all (`ScanMetrics.ofUses_counts_first`).
-/

set_option autoImplicit false
set_option relaxedAutoImplicit false

namespace Lexeme

open Text (Dictionary)
open Text.Dictionary (firstKeys)

/-! ### Dictionaries of counts -/

namespace Text.Dictionary

variable {counts : Dictionary Nat} {texts : List String}

/-- The keys of a dictionary of counts are the texts that are counted. -/
theorem keys_perm_dedup (hcounts : ∀ key, counts.get? key = positive? (texts.count key)) :
    counts.keys.Perm texts.dedup := by
  refine (List.perm_ext_iff_of_nodup counts.nodup_keys texts.nodup_dedup).mpr fun key ↦ ?_
  rw [mem_keys_iff, hcounts, ne_eq, positive?_eq_none_iff, List.count_eq_zero, not_not,
    List.mem_dedup]

/-- The entries of a dictionary of counts are its keys with their counts. -/
theorem entries_eq_map_count (hcounts : ∀ key, counts.get? key = positive? (texts.count key)) :
    counts.entries = counts.keys.map fun key ↦ (key, texts.count key) := by
  rw [keys, List.map_map]
  refine (List.map_id _).symm.trans (List.map_congr_left fun entry hentry ↦ ?_)
  obtain ⟨key, value⟩ := entry
  have hvalue := (get?_eq_some_iff counts key value).mpr hentry
  rw [hcounts, positive?] at hvalue
  split_ifs at hvalue
  obtain rfl := Option.some_inj.mp hvalue
  rfl

/-- Whichever keys are looked at, their counts add up to the number of the texts among them. -/
theorem sum_values_filter (hcounts : ∀ key, counts.get? key = positive? (texts.count key))
    (keep : String → Bool) :
    ((counts.entries.filter (keep ·.1)).map (·.2)).sum = texts.countP keep := by
  have hvalues : (counts.entries.filter (keep ·.1)).map (·.2) =
      (counts.keys.filter keep).map (texts.count ·) := by
    rw [entries_eq_map_count hcounts, List.filter_map, List.map_map]
    rfl
  calc ((counts.entries.filter (keep ·.1)).map (·.2)).sum
      = ((counts.keys.filter keep).map (texts.count ·)).sum := congrArg List.sum hvalues
    _ = ((texts.dedup.filter keep).map (texts.count ·)).sum :=
        (((keys_perm_dedup hcounts).filter keep).map _).sum_eq
    _ = texts.countP keep := List.sum_map_count_dedup_filter_eq_countP keep texts

end Text.Dictionary

/-! ### The operators of a scan -/

section Scan

variable (settings : ScanSettings) (source : String)

theorem mem_operatorTexts_of_mem_operatorsOf {operator : String}
    (hoperator : operator ∈ Token.operatorsOf (scan settings source).plainTokens) :
    operator ∈ operatorTexts := by
  obtain ⟨token, htoken, rfl⟩ := List.mem_map.mp hoperator
  obtain ⟨htoken, hkind⟩ := List.mem_filter.mp htoken
  exact (wellFormed_of_mem_plainTokens settings source token htoken).text_mem_operatorTexts
    (beq_iff_eq.mp hkind)

/-- The operators of two characters are the pairs among the operators. -/
theorem countP_isPairOperator :
    (scan settings source).plainTokens.countP Token.isPairOperator =
      (Token.operatorsOf (scan settings source).plainTokens).countP (·.length = 2) := by
  rw [Token.operatorsOf, List.countP_map, List.countP_filter]
  refine List.countP_congr fun token htoken ↦ ?_
  have hpair := (wellFormed_of_mem_plainTokens settings source token htoken).isPairOperator_iff
  rw [hpair]
  simp [and_comm]

/-- The uses of operators counted in a scan are complete, whether other counters are asked for or
not. Every operator has one of sixteen texts, fewer than can be counted; the keys are the distinct
texts of the operators, each under its number of occurrences. So the counts add up to the number of
operators, and those of the operators of two characters to the number that a detailed scan counts. -/
theorem operatorUses_scan (htrack : settings.trackOperators = true) :
    let output := scan settings source
    let operators := Token.operatorsOf output.plainTokens
    let uses := output.metrics.operatorUses
    let detailed := scan { settings with detailedMetrics := true } source
    (∀ operator ∈ operators, operator ∈ operatorTexts) ∧
    operatorTexts.length = 10 + 6 ∧
    operatorTexts.length ≤ Limits.current.maxTrackedOperators ∧
    uses.keys.Perm operators.dedup ∧
    (∀ operator, uses.get? operator =
      if operator ∈ operators then some (operators.count operator) else none) ∧
    (uses.entries.map (·.2)).sum = Token.countKind .operator output.plainTokens ∧
    ((uses.entries.filter (·.1.length = 2)).map (·.2)).sum = detailed.metrics.pairOperators := by
  intro output operators uses detailed
  have huses (operator : String) : uses.get? operator = positive? (operators.count operator) := by
    have hcounted := get?_operatorUses settings (Piece.ofSource source)
      Piece.wellFormed_of_mem_located operator
    rw [if_pos htrack, ScanMetrics.ofPieces_eq_tally, ← metrics_scan,
      ← plainTokens_scan settings source] at hcounted
    exact hcounted
  refine ⟨fun operator ↦ mem_operatorTexts_of_mem_operatorsOf settings source,
    length_operatorTexts, length_operatorTexts_le, Dictionary.keys_perm_dedup huses,
    fun operator ↦ ?_, ?_, ?_⟩
  · rw [huses, positive?]
    by_cases hmem : operator ∈ operators
    · rw [if_pos hmem, if_neg fun hzero ↦ List.count_eq_zero.mp hzero hmem]
    · rw [if_neg hmem, if_pos (List.count_eq_zero.mpr hmem)]
  · have hall := Dictionary.sum_values_filter huses fun _ ↦ true
    rw [List.filter_true, List.countP_true] at hall
    rw [hall]
    exact (List.length_map _).trans List.countP_eq_length_filter.symm
  · have hpairs := Dictionary.sum_values_filter huses fun operator ↦ operator.length = 2
    have hdetailed : detailed.metrics.pairOperators =
        output.plainTokens.countP Token.isPairOperator := by
      rw [metrics_scan, plainTokens_scan]
      rfl
    rw [hdetailed, countP_isPairOperator]
    exact hpairs

end Scan

/-- An operator that occurs in three places, once inside a string. -/
theorem operatorUses_scan_repeated :
    let settings : ScanSettings :=
      { ScanSettings.builtIn with trackOperators := true, detailedMetrics := false }
    let uses := (scan settings "x == y \"==\" z <= 1 === é").metrics.operatorUses
    settings.trackOperators = true ∧
    uses.get? "==" = some 2 ∧ uses.get? "!" = none ∧ (uses.entries.map (·.2)).sum = 4 := by
  intro settings uses
  have htrack : settings.trackOperators = true := rfl
  obtain ⟨-, -, -, -, hcounts, hsum, -⟩ :=
    operatorUses_scan settings "x == y \"==\" z <= 1 === é" htrack
  have hoperators : Token.operatorsOf
      (scan settings "x == y \"==\" z <= 1 === é").plainTokens = ["==", "<=", "==", "="] := by
    decide +kernel
  have hnumber : Token.countKind .operator
      (scan settings "x == y \"==\" z <= 1 === é").plainTokens = 4 := by
    decide +kernel
  rw [hoperators] at hcounts
  exact ⟨htrack, (hcounts "==").trans (by decide), (hcounts "!").trans (by decide),
    hsum.trans hnumber⟩

/-! ### Any texts, one after the other -/

namespace ScanMetrics

/-- The counters after uses of texts have been recorded one after the other. -/
def ofUses (texts : List String) : ScanMetrics :=
  texts.foldl recordUse {}

/-- Recording uses of texts changes what is known of these uses and no other counter. -/
theorem foldl_recordUse (metrics : ScanMetrics) (texts : List String) :
    texts.foldl recordUse metrics = { metrics with
      operatorUses :=
        texts.foldl (countUse Limits.current.maxTrackedOperators) metrics.operatorUses } := by
  induction texts generalizing metrics with
  | nil => rfl
  | cons text texts ih => exact ih (metrics.recordUse text)

theorem operatorUses_ofUses (texts : List String) :
    (ofUses texts).operatorUses =
      texts.foldl (countUse Limits.current.maxTrackedOperators) .empty := by
  rw [ofUses, foldl_recordUse]

theorem countsFirst_ofUses (texts : List String) :
    CountsFirst Limits.current.maxTrackedOperators texts (ofUses texts).operatorUses := by
  rw [operatorUses_ofUses]
  exact countsFirst_foldl _ texts

/-- Whatever the texts are whose uses are recorded one after the other, the first distinct ones are
counted, as many as there is room for, and each of them as often as it occurs among all texts,
whether there was still room by then or not. A text that does not come before the room is used up
is never counted, and no other counter changes. -/
theorem ofUses_counts_first (texts : List String) :
    (ofUses texts).operatorUses.keys.Perm (firstKeys Limits.current.maxTrackedOperators texts) ∧
    (∀ text, (ofUses texts).operatorUses.get? text =
      if text ∈ firstKeys Limits.current.maxTrackedOperators texts then some (texts.count text)
      else none) ∧
    (∀ earlier later, texts = earlier ++ later →
      Limits.current.maxTrackedOperators ≤ (ofUses earlier).operatorUses.size →
      ∀ text ∉ earlier, text ∉ (ofUses texts).operatorUses.keys) ∧
    ofUses texts = { operatorUses := (ofUses texts).operatorUses } := by
  have hcounts := countsFirst_ofUses texts
  refine ⟨hcounts.keys_perm, hcounts.get?_eq_ite, ?_, ?_⟩
  · intro earlier later hsplit hfull text hnew hmem
    have hsize := Dictionary.size_eq_min (countsFirst_ofUses earlier).keys_perm
    have hfirst := hcounts.keys_perm.mem_iff.mp hmem
    rw [hsplit, Dictionary.firstKeys_append_of_full (by omega)] at hfirst
    exact hnew (Dictionary.mem_of_mem_firstKeys hfirst)
  · calc ofUses texts
        = { operatorUses :=
              texts.foldl (countUse Limits.current.maxTrackedOperators) .empty } :=
          foldl_recordUse {} texts
      _ = { operatorUses := (ofUses texts).operatorUses } := by rw [operatorUses_ofUses]

/-- Runs of a sign, one of each length, use up the room; the shortest is counted again after that,
and a sign that is new by then is not. -/
theorem ofUses_counts_first_full :
    let limit := Limits.current.maxTrackedOperators
    let runs := (List.range limit).map fun length ↦ String.ofList (List.replicate (length + 1) '=')
    let uses := (ofUses (runs ++ ["!", "=", "!", "="])).operatorUses
    limit ≤ (ofUses runs).operatorUses.size ∧ "!" ∉ runs ∧
    uses.get? "=" = some 3 ∧ "!" ∉ uses.keys := by
  intro limit runs uses
  obtain ⟨hkeys, -⟩ := ofUses_counts_first runs
  obtain ⟨-, hcounts, hnever, -⟩ := ofUses_counts_first (runs ++ ["!", "=", "!", "="])
  have hfull : limit ≤ (ofUses runs).operatorUses.size := by
    rw [Dictionary.size_eq_min hkeys]
    decide +kernel
  have hnew : "!" ∉ runs := by decide +kernel
  exact ⟨hfull, hnew, (hcounts "=").trans (by decide +kernel), hnever runs _ rfl hfull "!" hnew⟩

end ScanMetrics

end Lexeme
