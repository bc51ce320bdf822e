import Lexeme.Scan.Output
import Lexeme.TokenAt

/-!
# Scans by a cursor

A scan as steps of a cursor, which is a byte offset into the source. At each step the class of the
character at the cursor decides what is read there, and the cursor moves behind what was read. A
step looks up everything by offset, and reports a fault where an offset does not fit the source.
-/

set_option autoImplicit false
set_option relaxedAutoImplicit false

namespace Lexeme

/-- Where a scan is, and what it has found so far. -/
structure Cursor where
  offset : Nat
  progress : ScanProgress

namespace Cursor

/-- At the start of a source. -/
def start : Cursor := ⟨0, .start⟩

/-- The character at the cursor. -/
def char? (source : String) (cursor : Cursor) : Option Char :=
  (Text.slice? cursor.offset source.utf8ByteSize source.toList).bind (·.head?)

/-- The span from the cursor to an offset. -/
def spanTo (cursor : Cursor) (stop : Nat) : Except OffsetFault Span :=
  if cursor.offset ≤ stop then .ok ⟨cursor.offset, stop⟩
  else .error (.span cursor.offset stop)

/-- Takes the token that reaches from the cursor to an offset. -/
def take (settings : ScanSettings) (cursor : Cursor) (token : Token) (stop : Nat) :
    Except OffsetFault Cursor := do
  let span ← cursor.spanTo stop
  let progress := cursor.progress
  pure ⟨stop, { progress with
    tokens := ⟨token, span⟩ :: progress.tokens
    metrics := progress.metrics.recordToken settings token }⟩

/-- Takes in a trouble with its place. -/
def report (source : String) (kind : DiagnosticKind) (span : Span) (troubles : DiagnosticBuffer) :
    DiagnosticBuffer :=
  troubles.push (.make kind span ((span.slice? source).getD "").toList)

/-- Passes over a separator. -/
def skip (cursor : Cursor) (c : Char) : Cursor :=
  let metrics := cursor.progress.metrics
  ⟨cursor.offset + c.utf8Size, { cursor.progress with
    metrics := { metrics with
      separatorsSkipped := metrics.separatorsSkipped + 1
      skippedBytes := metrics.skippedBytes + c.utf8Size } }⟩

/-- Passes over a character outside every class. -/
def drop (source : String) (cursor : Cursor) (c : Char) : Except OffsetFault Cursor := do
  let span ← cursor.spanTo (cursor.offset + c.utf8Size)
  let progress := cursor.progress
  let metrics := progress.metrics
  pure ⟨span.stop, { progress with
    troubles := report source .unrecognizedCharacter span progress.troubles
    metrics := { metrics with
      charactersDropped := metrics.charactersDropped + 1
      skippedBytes := metrics.skippedBytes + c.utf8Size } }⟩

/-- Passes over a string that is never closed. -/
def absorb (source : String) (cursor : Cursor) : Except OffsetFault Cursor := do
  let span ← cursor.spanTo source.utf8ByteSize
  let progress := cursor.progress
  let metrics := progress.metrics
  pure ⟨span.stop, { progress with
    troubles := report source .unterminatedString span progress.troubles
    metrics := { metrics with
      unterminatedStrings := metrics.unterminatedStrings + 1
      skippedBytes := metrics.skippedBytes + span.length } }⟩

/-- Takes the token of a kind at the cursor, or passes over the string that is never closed. -/
def takeKind (settings : ScanSettings) (source : String) (cursor : Cursor) (kind : TokenKind) :
    Except OffsetFault Cursor := do
  match ← TokenAt.ofKind? kind source cursor.offset with
  | some (token, stop) => cursor.take settings token stop
  | none => cursor.absorb source

/-- One step. Without a character at the cursor it leads to the end of the source. -/
def step (settings : ScanSettings) (source : String) (cursor : Cursor) :
    Except OffsetFault Cursor :=
  match cursor.char? source with
  | none => .ok { cursor with offset := source.utf8ByteSize }
  | some c =>
    match CharClass.of c with
    | .digit => cursor.takeKind settings source .number
    | .letter => cursor.takeKind settings source .word
    | .quote => cursor.takeKind settings source .string
    | .operator => cursor.takeKind settings source .operator
    | .delimiter => cursor.takeKind settings source .delimiter
    | .whitespace => .ok (cursor.skip c)
    | .other => cursor.drop source c

/-- Steps up to the end of the source. A step that does not lead on is a fault. -/
def run (settings : ScanSettings) (source : String) (cursor : Cursor) :
    Except OffsetFault Cursor :=
  if cursor.offset < source.utf8ByteSize then
    match cursor.step settings source with
    | .error fault => .error fault
    | .ok next =>
      if cursor.offset < next.offset then run settings source next
      else .error (.stuck cursor.offset)
  else .ok cursor
termination_by source.utf8ByteSize - cursor.offset
decreasing_by omega

end Cursor

end Lexeme
