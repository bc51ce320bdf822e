import Lexeme.Json.Scan
import Lexeme.Json.Reader
import Lexeme.Json.Text

/-!
# Reports about inputs

What is reported about one input, as lines of text and as JSON. The text has a line for each token,
then a line for each trouble, each of which starts with a mark that no token line starts with.
-/

set_option autoImplicit false
set_option relaxedAutoImplicit false

namespace Lexeme.Pipeline

open Decimal (Binary64)
open Json (Value)

/-- A report about one input. -/
structure Output where
  source : String
  mode : String
  tokens : List (Spanned Token)
  diagnostics : List Diagnostic
  suppressed : Nat
  counts : TokenCounts
  metrics : Option ScanMetrics
  milliseconds : Binary64
  deriving DecidableEq

namespace Output

/-- The line of a summary. -/
def summaryLine (output : Output) : String :=
  let counts := output.counts
  "# " ++ output.source ++ ": " ++ toString counts.total ++ " tokens (numbers " ++
    toString counts.numbers ++ ", words " ++ toString counts.words ++ ", strings " ++
    toString counts.strings ++ ", operators " ++ toString counts.operators ++ ", delimiters " ++
    toString counts.delimiters ++ ") in " ++ output.milliseconds.fixed 3 ++ " ms"

/-- The line about troubles that were not kept, if there are any. -/
def suppressedLines (suppressed : Nat) : List String :=
  if suppressed = 0 then []
  else ["# " ++ toString suppressed ++ " further diagnostics suppressed"]

/-- The lines of a report. The text of a string token may hold line feeds of its own. -/
def lines (output : Output) (summary : Bool) : List String :=
  output.tokens.map (·.value.render) ++
    output.diagnostics.map (fun diagnostic ↦ "# " ++ diagnostic.render) ++
    suppressedLines output.suppressed ++
    if summary then [output.summaryLine] else []

/-- The report as text, with a line feed behind each line. -/
def renderText (output : Output) (summary : Bool) : String :=
  String.join ((output.lines summary).map (· ++ "\n"))

/-- The report as a JSON object. -/
def toJson (output : Output) : Value :=
  .object <|
    [("source", .string output.source), ("mode", .string output.mode),
      ("tokens", .array (output.tokens.map Spanned.toRecord)),
      ("diagnostics", .array (output.diagnostics.map Diagnostic.toJson)),
      ("suppressed_diagnostics", .ofNat output.suppressed), ("counts", output.counts.toJson)] ++
    (match output.metrics with
      | some metrics => [("metrics", metrics.toJson)]
      | none => []) ++
    [("duration_ms", .number (.ofBinary64 output.milliseconds))]

def ofJson? (value : Value) : Option Output := do
  let [source, mode, tokens, diagnostics, suppressed, counts, metrics, milliseconds] ←
    value.fields? ["source", "mode", "tokens", "diagnostics", "suppressed_diagnostics", "counts",
      "metrics", "duration_ms"] | none
  let metrics ← match metrics with
    | none => some none
    | some metrics => if metrics.isNull then some none else (ScanMetrics.ofJson? metrics).map some
  some {
    source := ← (← source).text?
    mode := ← (← mode).text?
    tokens := ← (← (← tokens).items?).mapM Spanned.ofRecord?
    diagnostics := ← (← (← diagnostics).items?).mapM Diagnostic.ofJson?
    suppressed := ← (← suppressed).counter?
    counts := ← TokenCounts.ofJson? (← counts)
    metrics := metrics
    milliseconds := ← (← milliseconds).fraction? }

/-- The report as JSON text. -/
def toJsonText (output : Output) : String :=
  output.toJson.toLines

def ofJsonText? (text : String) : Option Output := do
  ofJson? (← Value.ofText? text)

end Output

end Lexeme.Pipeline
