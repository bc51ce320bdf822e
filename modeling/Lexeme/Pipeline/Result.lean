import Lexeme.Files.Metadata
import Lexeme.Pipeline.Output
import Lexeme.Scan.Output
import Lexeme.Time.Duration

/-!
# Results of inputs

What is known about an input after its scan, and how it is reported.
-/

set_option autoImplicit false
set_option relaxedAutoImplicit false

namespace Lexeme.Pipeline

/-- The result of one input. -/
structure Result where
  /-- The path of a file, or the name that was given to a text. -/
  name : String
  mode : ScanMode
  scan : ScanOutput
  /-- What is known about the file, if the input is one. -/
  metadata : Option Files.Metadata
  /-- Length of the source in bytes. -/
  bytes : Nat
  duration : Time.Duration
  deriving DecidableEq

namespace Result

def tokenCount (result : Result) : Nat :=
  result.scan.tokens.length

/-- Number of all troubles, kept or not. -/
def diagnosticCount (result : Result) : Nat :=
  result.scan.diagnosticCount

/-- Whether the scan went without trouble. -/
def isClean (result : Result) : Bool :=
  result.diagnosticCount == 0

/-- Numbers of tokens by kind. -/
def counts (result : Result) : TokenCounts :=
  .ofTokens result.scan.plainTokens

/-- The report about the result; the counters of the scan are in it on request. -/
def report (result : Result) (withMetrics : Bool) : Output where
  source := result.name
  mode := result.mode.name
  tokens := result.scan.tokens
  diagnostics := result.scan.diagnostics
  suppressed := result.scan.suppressed
  counts := result.counts
  metrics := if withMetrics then some result.scan.metrics else none
  milliseconds := .ofMagnitude result.duration.milliseconds

end Result

end Lexeme.Pipeline
