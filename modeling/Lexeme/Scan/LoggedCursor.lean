import Lexeme.Scan.Cursor
import Lexeme.Scan.Trace

/-!
# Logged scans by a cursor

The steps of a cursor with what is logged about them. On request a lenient scan logs a trouble when
it meets it, just before it takes the trouble in, and so whether or not there is room for it.
-/

set_option autoImplicit false
set_option relaxedAutoImplicit false

namespace Lexeme

open Log (Traced)

namespace Cursor

/-- Logs the trouble at a place, if troubles are logged one by one. -/
def noteTrouble (settings : ScanSettings) (source : String) (kind : DiagnosticKind) (span : Span) :
    Traced OffsetFault Unit :=
  if settings.mode = .lenient && settings.logDropped then
    .note (Diagnostic.make kind span ((span.slice? source).getD "").toList).entry
  else
    pure ()

/-- Passes over a character outside every class. -/
def dropTraced (settings : ScanSettings) (source : String) (cursor : Cursor) (c : Char) :
    Traced OffsetFault Cursor := do
  let span ← .quiet (cursor.spanTo (cursor.offset + c.utf8Size))
  noteTrouble settings source .unrecognizedCharacter span
  .quiet (cursor.drop source c)

/-- Passes over a string that is never closed. -/
def absorbTraced (settings : ScanSettings) (source : String) (cursor : Cursor) :
    Traced OffsetFault Cursor := do
  let span ← .quiet (cursor.spanTo source.utf8ByteSize)
  noteTrouble settings source .unterminatedString span
  .quiet (cursor.absorb source)

/-- Takes the string at the cursor, or passes over it if it is never closed. -/
def takeStringTraced (settings : ScanSettings) (source : String) (cursor : Cursor) :
    Traced OffsetFault Cursor := do
  match ← .quiet (TokenAt.ofKind? .string source cursor.offset) with
  | some (token, stop) => .quiet (cursor.take settings token stop)
  | none => cursor.absorbTraced settings source

/-- One step. Nothing is logged about tokens and separators. -/
def stepTraced (settings : ScanSettings) (source : String) (cursor : Cursor) :
    Traced OffsetFault Cursor :=
  match cursor.char? source with
  | none => .quiet (cursor.step settings source)
  | some c =>
    match CharClass.of c with
    | .quote => cursor.takeStringTraced settings source
    | .other => cursor.dropTraced settings source c
    | _ => .quiet (cursor.step settings source)

/-- Steps up to the end of the source. A step that does not lead on is a fault. -/
def runTraced (settings : ScanSettings) (source : String) (cursor : Cursor) :
    Traced OffsetFault Cursor :=
  if cursor.offset < source.utf8ByteSize then
    match cursor.stepTraced settings source with
    | ⟨trace, .error fault⟩ => ⟨trace, .error fault⟩
    | ⟨trace, .ok next⟩ =>
      if cursor.offset < next.offset then
        let rest := runTraced settings source next
        ⟨trace ++ rest.trace, rest.outcome⟩
      else ⟨trace, .error (.stuck cursor.offset)⟩
  else .quiet (.ok cursor)
termination_by source.utf8ByteSize - cursor.offset
decreasing_by omega

end Cursor

/-- A scan step by step: its start is logged, then what the steps log, and then its end. -/
def scanStepwise (settings : ScanSettings) (source : String) :
    Traced OffsetFault ScanOutput := do
  .note (scanStarted settings source)
  let cursor ← Cursor.start.runTraced settings source
  let output := cursor.progress.output
  output.limitReached.forM .note
  .note output.completed
  pure output

end Lexeme
