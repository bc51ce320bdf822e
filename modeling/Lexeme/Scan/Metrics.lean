import Lexeme.Limits
import Lexeme.Piece
import Lexeme.Settings.Basic
import Lexeme.Text.Dictionary

/-!
# Counters of a scan

Counters gathered over one scan, piece by piece. Counters by kind of token are gathered only on
request, and so is the number of uses of each operator, for a limited number of operators.
-/

set_option autoImplicit false
set_option relaxedAutoImplicit false

namespace Lexeme

open Text (Dictionary)

/-- Counters of a scan. Lengths are in characters, skipped bytes are those outside tokens. -/
structure ScanMetrics where
  totalTokens : Nat := 0
  numberTokens : Nat := 0
  wordTokens : Nat := 0
  stringTokens : Nat := 0
  operatorTokens : Nat := 0
  delimiterTokens : Nat := 0
  pairOperators : Nat := 0
  longestString : Nat := 0
  longestWord : Nat := 0
  separatorsSkipped : Nat := 0
  charactersDropped : Nat := 0
  unterminatedStrings : Nat := 0
  skippedBytes : Nat := 0
  operatorUses : Dictionary Nat := .empty
  deriving DecidableEq

/-- Counts one more use of an operator; a new one is refused once `limit` operators are known. -/
def countUse (limit : Nat) (uses : Dictionary Nat) (operator : String) : Dictionary Nat :=
  match uses.get? operator with
  | some count => uses.insert operator (count + 1)
  | none => if uses.size < limit then uses.insert operator 1 else uses

namespace ScanMetrics

/-- Counts a token by its kind. -/
def recordKind (metrics : ScanMetrics) (token : Token) : ScanMetrics :=
  match token.kind with
  | .number => { metrics with numberTokens := metrics.numberTokens + 1 }
  | .word =>
    { metrics with
      wordTokens := metrics.wordTokens + 1
      longestWord := max metrics.longestWord token.text.length }
  | .string =>
    { metrics with
      stringTokens := metrics.stringTokens + 1
      longestString := max metrics.longestString token.text.length }
  | .operator =>
    { metrics with
      operatorTokens := metrics.operatorTokens + 1
      pairOperators := metrics.pairOperators + if token.isPairOperator then 1 else 0 }
  | .delimiter => { metrics with delimiterTokens := metrics.delimiterTokens + 1 }

/-- Counts one more use of an operator. -/
def recordUse (metrics : ScanMetrics) (operator : String) : ScanMetrics :=
  { metrics with
    operatorUses := countUse Limits.current.maxTrackedOperators metrics.operatorUses operator }

/-- Counts a token, as far as the settings ask for it. -/
def recordToken (settings : ScanSettings) (metrics : ScanMetrics) (token : Token) : ScanMetrics :=
  let metrics := { metrics with totalTokens := metrics.totalTokens + 1 }
  let metrics := if settings.detailedMetrics then metrics.recordKind token else metrics
  if settings.trackOperators && token.kind == .operator then metrics.recordUse token.text
  else metrics

/-- Counts a piece of a source. -/
def record (settings : ScanSettings) (metrics : ScanMetrics) (piece : Spanned Piece) :
    ScanMetrics :=
  match piece.value with
  | .token token => metrics.recordToken settings token
  | .separator _ =>
    { metrics with
      separatorsSkipped := metrics.separatorsSkipped + 1
      skippedBytes := metrics.skippedBytes + piece.span.length }
  | .stray _ =>
    { metrics with
      charactersDropped := metrics.charactersDropped + 1
      skippedBytes := metrics.skippedBytes + piece.span.length }
  | .openString _ =>
    { metrics with
      unterminatedStrings := metrics.unterminatedStrings + 1
      skippedBytes := metrics.skippedBytes + piece.span.length }

/-- The counters of a scan that passed the given pieces. -/
def ofPieces (settings : ScanSettings) (pieces : List (Spanned Piece)) : ScanMetrics :=
  pieces.foldl (record settings) {}

end ScanMetrics

end Lexeme
