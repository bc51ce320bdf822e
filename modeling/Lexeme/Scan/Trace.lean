import Lexeme.Log.Traced
import Lexeme.Scan.Output

/-!
# Traces of scans

What is logged about a scan. The scan itself starts and ends with an event; on request a lenient scan
logs each trouble between them. The scan mode's verdict is logged when it is strict.
-/

set_option autoImplicit false
set_option relaxedAutoImplicit false

namespace Lexeme

open Log (Entry Traced)

/-- A trouble that a lenient scan passes over. -/
def Diagnostic.entry (diagnostic : Diagnostic) : Entry where
  level := .warning
  code := diagnostic.kind.code
  message := "Input absorbed without a token"
  span := some diagnostic.span
  context := [("kind", diagnostic.kind.phrase), ("fragment", Text.quoted diagnostic.fragment)]

/-- The start of a scan. -/
def scanStarted (settings : ScanSettings) (source : String) : Entry :=
  (Entry.debug "Starting lexical analysis").withContext [
    ("bytes", toString source.utf8ByteSize),
    ("mode", settings.mode.name),
    ("max_diagnostics", toString Limits.current.maxDiagnostics)]

/-- The troubles of a source, as far as they are logged one by one. -/
def absorbed (settings : ScanSettings) (source : String) : List Entry :=
  if settings.mode = .lenient && settings.logDropped then
    (Diagnostic.ofSource source).map Diagnostic.entry
  else []

namespace ScanOutput

/-- That troubles were not kept, if so. -/
def limitReached (output : ScanOutput) : List Entry :=
  if output.suppressed = 0 then []
  else
    [{ level := .warning
       code := .diagnosticLimitReached
       message := "Diagnostic limit reached"
       context := [
         ("stored", toString output.diagnostics.length),
         ("suppressed", toString output.suppressed)] }]

/-- The end of a scan. -/
def completed (output : ScanOutput) : Entry :=
  (Entry.success .scanCompleted "Lexical analysis completed").withContext [
    ("tokens", toString output.metrics.totalTokens),
    ("whitespace_skipped", toString output.metrics.separatorsSkipped),
    ("characters_dropped", toString output.metrics.charactersDropped),
    ("unterminated_strings", toString output.metrics.unterminatedStrings)]

/-- The verdict of a strict scan. -/
def verdict (output : ScanOutput) (mode : ScanMode) : List Entry :=
  if mode.isStrict then
    match output.diagnostics with
    | first :: _ =>
      [((Entry.error first.toError.code "Strict scan rejected input").spanning first.span).withContext [
        ("kind", first.kind.phrase), ("fragment", Text.quoted first.fragment),
        ("total_diagnostics", toString output.diagnosticCount)]]
    | [] =>
      [(Entry.success .strictScanPassed "Strict scan passed").withContext [
        ("tokens", toString output.tokens.length)]]
  else []

/-- The output under a scan mode, with what is logged about it. -/
def enforceTraced (output : ScanOutput) (mode : ScanMode) : Traced LexerError ScanOutput :=
  ⟨output.verdict mode, output.enforce mode⟩

end ScanOutput

/-- A scan with what is logged about it. -/
def scanTraced (settings : ScanSettings) (source : String) : Traced LexerError ScanOutput :=
  let output := scan settings source
  ⟨scanStarted settings source :: absorbed settings source ++ output.limitReached ++
    [output.completed], .ok output⟩

/-- A scan and the verdict of its mode. -/
def judgedScan (settings : ScanSettings) (source : String) : Traced LexerError ScanOutput := do
  let output ← scanTraced settings source
  output.enforceTraced settings.mode

end Lexeme
