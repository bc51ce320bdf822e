import Lexeme.Proofs.StrictScan
import Lexeme.Settings.Environment

/-!
# Settings have no say in what is found

Settings choose which counters are gathered, and what becomes of a scan with troubles, but not what
is found. The counters of a scan are those of a scan that gathers all of them, as far as they are
asked for (`metrics_scan_eq_asked`), and tokens and troubles do not depend on the settings at all.
So two scans of a source agree on everything that both have been asked for
(`scan_indifferent`), wherever their settings come from.
-/

set_option autoImplicit false
set_option relaxedAutoImplicit false

namespace Lexeme

namespace ScanMetrics

/-- The counters that every scan gathers; the others are zero. -/
def general (metrics : ScanMetrics) : ScanMetrics where
  totalTokens := metrics.totalTokens
  separatorsSkipped := metrics.separatorsSkipped
  charactersDropped := metrics.charactersDropped
  unterminatedStrings := metrics.unterminatedStrings
  skippedBytes := metrics.skippedBytes

/-- The counters by kind of token; the others are zero. -/
def details (metrics : ScanMetrics) : ScanMetrics where
  numberTokens := metrics.numberTokens
  wordTokens := metrics.wordTokens
  stringTokens := metrics.stringTokens
  operatorTokens := metrics.operatorTokens
  delimiterTokens := metrics.delimiterTokens
  pairOperators := metrics.pairOperators
  longestString := metrics.longestString
  longestWord := metrics.longestWord

/-- What is left of the counters when only those are gathered that settings ask for. -/
def asked (settings : ScanSettings) (metrics : ScanMetrics) : ScanMetrics :=
  let uses := if settings.trackOperators then metrics.operatorUses else .empty
  if settings.detailedMetrics then { metrics with operatorUses := uses }
  else { metrics.general with operatorUses := uses }

theorem general_asked (settings : ScanSettings) (metrics : ScanMetrics) :
    (metrics.asked settings).general = metrics.general := by
  unfold asked
  split_ifs <;> rfl

theorem details_asked (settings : ScanSettings) (metrics : ScanMetrics) :
    (metrics.asked settings).details =
      if settings.detailedMetrics then metrics.details else {} := by
  unfold asked
  split_ifs <;> rfl

theorem operatorUses_asked (settings : ScanSettings) (metrics : ScanMetrics) :
    (metrics.asked settings).operatorUses =
      if settings.trackOperators then metrics.operatorUses else .empty := by
  unfold asked
  split_ifs <;> rfl

end ScanMetrics

/-- Settings that ask for every counter. -/
def ScanSettings.exhaustive : ScanSettings :=
  { ScanSettings.builtIn with detailedMetrics := true, trackOperators := true }

/-- The counters of a scan are those of a scan that gathers all, as far as they are asked for. -/
theorem metrics_scan_eq_asked (settings : ScanSettings) (source : String) :
    (scan settings source).metrics = (scan .exhaustive source).metrics.asked settings := by
  rw [metrics_scan, metrics_scan]
  obtain ⟨mode, detailed, track, logDropped⟩ := settings
  cases detailed <;> cases track <;> rfl

/-- The lenient mode accepts every source, and finds its tokens. -/
theorem tryTokenize_lenient (settings : ScanSettings) (source : String)
    (hlenient : settings.mode = .lenient) :
    tryTokenize settings source = .ok (tokenize source) := by
  have henforce : (scan settings source).enforce .lenient = .ok (scan settings source) := rfl
  rw [tryTokenize, hlenient, henforce, ← plainTokens_scan_eq_tokenize settings]
  rfl

/-- Two scans of a source under any settings find the same tokens and troubles, and the counters
that every scan gathers are the same. Counters by kind are the same when both scans are asked for
them, whatever else is asked for, and zero in a scan that is not; so it is with the uses of
operators. Hence the tokens of a source are the same in every environment, the lenient mode finds
them without fail, and the strict mode finds the same ones or fails. -/
theorem scan_indifferent (first second : ScanSettings) (source : String) :
    let a := scan first source
    let b := scan second source
    a.tokens = b.tokens ∧ a.diagnostics = b.diagnostics ∧ a.suppressed = b.suppressed ∧
    a.metrics.general = b.metrics.general ∧
    (first.detailedMetrics = true → second.detailedMetrics = true →
      a.metrics.details = b.metrics.details) ∧
    (first.detailedMetrics = false → a.metrics.details = {}) ∧
    (first.trackOperators = true → second.trackOperators = true →
      a.metrics.operatorUses = b.metrics.operatorUses) ∧
    (first.trackOperators = false → a.metrics.operatorUses = .empty) ∧
    (∀ environment,
      (scan (.ofEnvironment environment) source).plainTokens = tokenize source) ∧
    tryTokenize { first with mode := .lenient } source = .ok (tokenize source) ∧
    ∀ found, tryTokenize { first with mode := .strict } source = .ok found →
      tryTokenize { second with mode := .lenient } source = .ok found := by
  intro a b
  have hfirst : a.metrics = _ := metrics_scan_eq_asked first source
  have hsecond : b.metrics = _ := metrics_scan_eq_asked second source
  refine ⟨?_, ?_, ?_, ?_, fun hdetailed hdetailed' ↦ ?_, fun hplain ↦ ?_, fun htrack htrack' ↦ ?_,
    fun hplain ↦ ?_, fun environment ↦ plainTokens_scan_eq_tokenize _ source,
    tryTokenize_lenient _ source rfl, fun found hfound ↦ ?_⟩
  · exact (tokens_scan first source).trans (tokens_scan second source).symm
  · exact (diagnostics_scan first source).trans (diagnostics_scan second source).symm
  · exact (suppressed_scan first source).trans (suppressed_scan second source).symm
  · rw [hfirst, hsecond, ScanMetrics.general_asked, ScanMetrics.general_asked]
  · rw [hfirst, hsecond, ScanMetrics.details_asked, ScanMetrics.details_asked, hdetailed,
      hdetailed']
  · rw [hfirst, ScanMetrics.details_asked, hplain]
    rfl
  · rw [hfirst, hsecond, ScanMetrics.operatorUses_asked, ScanMetrics.operatorUses_asked, htrack,
      htrack']
  · rw [hfirst, ScanMetrics.operatorUses_asked, hplain]
    rfl
  · rw [tryTokenize_lenient _ source rfl]
    exact congrArg Except.ok (of_tryTokenize_eq_ok _ source rfl hfound).symm

end Lexeme
