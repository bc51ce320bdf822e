import Lexeme.Scan.Diagnostic
import Lexeme.Scan.Metrics

/-!
# Scans

The scan of a source text: its tokens with their places, its troubles and its counters, all found in
one pass over its pieces (`scan_eq_ofPieces`). A scan never fails; whether troubles count as an error
is decided afterwards by the scan mode.
-/

set_option autoImplicit false
set_option relaxedAutoImplicit false

namespace Lexeme

/-- Everything a scan finds out about a source. -/
structure ScanOutput where
  tokens : List (Spanned Token)
  diagnostics : List Diagnostic
  suppressed : Nat
  metrics : ScanMetrics
  deriving DecidableEq

/-- The token a piece is, with its place, if it is one. -/
def Piece.spannedToken? (piece : Spanned Piece) : Option (Spanned Token) :=
  match piece.value with
  | .token t => some ⟨t, piece.span⟩
  | _ => none

/-- Takes in the trouble a piece stands for, if there is any. -/
def DiagnosticBuffer.pushPiece (buffer : DiagnosticBuffer) (piece : Spanned Piece) :
    DiagnosticBuffer :=
  match Diagnostic.ofPiece? piece with
  | some diagnostic => buffer.push diagnostic
  | none => buffer

/-- What a scan has found in the pieces that it has passed; the latest token is the first. -/
structure ScanProgress where
  tokens : List (Spanned Token)
  troubles : DiagnosticBuffer
  metrics : ScanMetrics

namespace ScanProgress

/-- Nothing is passed yet. -/
def start : ScanProgress := ⟨[], .empty, {}⟩

/-- Passes a piece. -/
def pass (settings : ScanSettings) : ScanProgress → Spanned Piece → ScanProgress
  | ⟨tokens, troubles, metrics⟩, piece =>
    ⟨Piece.consSome tokens (Piece.spannedToken? piece), troubles.pushPiece piece,
      metrics.record settings piece⟩

/-- The output of a scan that ends here. -/
def output (progress : ScanProgress) : ScanOutput where
  tokens := progress.tokens.reverse
  diagnostics := progress.troubles.stored
  suppressed := progress.troubles.suppressed
  metrics := progress.metrics

/-- The three things that a scan gathers do not depend on one another. -/
theorem foldl_pass (settings : ScanSettings) (progress : ScanProgress)
    (pieces : List (Spanned Piece)) :
    pieces.foldl (pass settings) progress =
      ⟨(pieces.filterMap Piece.spannedToken?).reverse ++ progress.tokens,
        pieces.foldl DiagnosticBuffer.pushPiece progress.troubles,
        pieces.foldl (ScanMetrics.record settings) progress.metrics⟩ := by
  rw [← Piece.foldl_consSome]
  induction pieces generalizing progress with
  | nil => rfl
  | cons piece pieces ih => exact ih (pass settings progress piece)

end ScanProgress

namespace ScanOutput

/-- What a scan makes of the pieces of a source. -/
def ofPieces (settings : ScanSettings) (pieces : List (Spanned Piece)) : ScanOutput :=
  let buffer := pieces.foldl DiagnosticBuffer.pushPiece .empty
  { tokens := pieces.filterMap Piece.spannedToken?
    diagnostics := buffer.stored
    suppressed := buffer.suppressed
    metrics := ScanMetrics.ofPieces settings pieces }

/-- Number of all troubles, kept or not. -/
def diagnosticCount (output : ScanOutput) : Nat :=
  output.diagnostics.length + output.suppressed

/-- The tokens without their places. -/
def plainTokens (output : ScanOutput) : List Token :=
  output.tokens.map (·.value)

/-- Under the strict mode the first trouble is an error; otherwise the output stands as it is. -/
def enforce (output : ScanOutput) (mode : ScanMode) : Except LexerError ScanOutput :=
  if mode.isStrict then
    match output.diagnostics with
    | first :: _ => .error first.toError
    | [] => .ok output
  else
    .ok output

end ScanOutput

/-- Scans a source text. -/
def scan (settings : ScanSettings) (source : String) : ScanOutput :=
  (Piece.fold (ScanProgress.pass settings) .start 0 source.toList).output

/-- One pass finds what the list of all pieces holds. -/
theorem scan_eq_ofPieces (settings : ScanSettings) (source : String) :
    scan settings source = .ofPieces settings (Piece.ofSource source) := by
  rw [scan, Piece.fold_eq_foldl, ScanProgress.foldl_pass]
  simp [ScanProgress.output, ScanProgress.start, ScanOutput.ofPieces, ScanMetrics.ofPieces,
    Piece.ofSource]

/-- The tokens of a source text; troubles are passed over. -/
def tokenize (source : String) : List Token :=
  (scan .builtIn source).plainTokens

/-- The tokens of a source text, or the error that the scan mode makes of its first trouble. -/
def tryTokenize (settings : ScanSettings) (source : String) : Except LexerError (List Token) :=
  ((scan settings source).enforce settings.mode).map (·.plainTokens)

end Lexeme
