import Lexeme.Limits
import Lexeme.Log.Code
import Lexeme.Piece
import Lexeme.Text.Quoted

/-!
# Troubles of a scan

Trouble in a source text: what a scan passed over without making a token of it. A buffer keeps the
first troubles up to a limit and counts the others.
-/

set_option autoImplicit false
set_option relaxedAutoImplicit false

namespace Lexeme

/-- What went wrong at a place. -/
inductive DiagnosticKind where
  /-- A quote is never closed, and the rest of the text was passed over. -/
  | unterminatedString
  /-- A character fits no class of tokens. -/
  | unrecognizedCharacter
  deriving Repr, DecidableEq, Inhabited

namespace DiagnosticKind

/-- The kind in words. -/
def phrase : DiagnosticKind → String
  | unterminatedString => "unterminated string"
  | unrecognizedCharacter => "unrecognized character"

/-- Name of the kind in written data. -/
def name : DiagnosticKind → String
  | unterminatedString => "unterminated_string"
  | unrecognizedCharacter => "unrecognized_character"

/-- The kind of a name. -/
def ofName? : String → Option DiagnosticKind
  | "unterminated_string" => some unterminatedString
  | "unrecognized_character" => some unrecognizedCharacter
  | _ => none

def code : DiagnosticKind → Log.Code
  | unterminatedString => .unterminatedString
  | unrecognizedCharacter => .unrecognizedCharacter

end DiagnosticKind

/-- Why a strict scan rejects a source. Offsets are in bytes. -/
inductive LexerError where
  | unterminatedString (offset : Nat)
  | unrecognizedCharacter (character : Char) (offset : Nat)
  deriving Repr, DecidableEq

namespace LexerError

def message : LexerError → String
  | unterminatedString offset =>
    "Unterminated string literal starting at byte " ++ toString offset
  | unrecognizedCharacter character offset =>
    "Unrecognized character " ++ Text.quotedChar character ++ " at byte " ++ toString offset

def code : LexerError → Log.Code
  | unterminatedString _ => .unterminatedString
  | unrecognizedCharacter _ _ => .unrecognizedCharacter

def offset : LexerError → Nat
  | unterminatedString offset => offset
  | unrecognizedCharacter _ offset => offset

end LexerError

/-- Trouble at a place, with the start of the source text there. -/
structure Diagnostic where
  kind : DiagnosticKind
  span : Span
  fragment : String
  deriving Repr, DecidableEq

namespace Diagnostic

/-- Trouble at a place whose text is given; no more than the longest fragment of it is kept. -/
def make (kind : DiagnosticKind) (span : Span) (text : List Char) : Diagnostic :=
  ⟨kind, span, String.ofList (text.take Limits.current.maxFragmentLength)⟩

/-- The trouble a piece of a source stands for, if it is no token and no separator. -/
def ofPiece? (piece : Spanned Piece) : Option Diagnostic :=
  match piece.value with
  | .token _ => none
  | .separator _ => none
  | .stray c => some (make .unrecognizedCharacter piece.span [c])
  | .openString text => some (make .unterminatedString piece.span text)

/-- Every trouble of a source, in order. -/
def ofSource (source : String) : List Diagnostic :=
  (Piece.fold (fun found piece ↦ Piece.consSome found (ofPiece? piece)) [] 0
    source.toList).reverse

theorem ofSource_eq (source : String) :
    ofSource source = (Piece.ofSource source).filterMap ofPiece? := by
  rw [ofSource, Piece.fold_eq_foldl, Piece.foldl_consSome]
  simp [Piece.ofSource]

/-- The error a strict scan makes of the trouble. -/
def toError (diagnostic : Diagnostic) : LexerError :=
  match diagnostic.kind with
  | .unterminatedString => .unterminatedString diagnostic.span.start
  | .unrecognizedCharacter =>
    .unrecognizedCharacter (diagnostic.fragment.toList.headD '\ufffd') diagnostic.span.start

/-- The trouble in one line. -/
def render (diagnostic : Diagnostic) : String :=
  diagnostic.kind.phrase ++ " at bytes " ++ diagnostic.span.render ++ ": " ++
    Text.quoted diagnostic.fragment

end Diagnostic

/-- Troubles kept up to the limit of the build, with the number of those past it. -/
structure DiagnosticBuffer where
  kept : Array Diagnostic
  suppressed : Nat
  deriving Repr, DecidableEq

namespace DiagnosticBuffer

def empty : DiagnosticBuffer := ⟨#[], 0⟩

/-- Takes in one more trouble. -/
def push (buffer : DiagnosticBuffer) (diagnostic : Diagnostic) : DiagnosticBuffer :=
  if buffer.kept.size < Limits.current.maxDiagnostics then
    { buffer with kept := buffer.kept.push diagnostic }
  else
    { buffer with suppressed := buffer.suppressed + 1 }

/-- Whether the next trouble will be kept. -/
def hasRoom (buffer : DiagnosticBuffer) : Bool :=
  buffer.kept.size < Limits.current.maxDiagnostics

/-- The troubles kept, oldest first. -/
def stored (buffer : DiagnosticBuffer) : List Diagnostic :=
  buffer.kept.toList

/-- The oldest trouble. -/
def first? (buffer : DiagnosticBuffer) : Option Diagnostic :=
  buffer.kept[0]?

/-- Number of all troubles taken in. -/
def total (buffer : DiagnosticBuffer) : Nat :=
  buffer.kept.size + buffer.suppressed

/-- Whether no trouble is kept. -/
def isEmpty (buffer : DiagnosticBuffer) : Bool :=
  buffer.kept.isEmpty

/-- A call on a buffer. -/
inductive Call where
  | push (diagnostic : Diagnostic)
  /-- Takes everything out, so that the buffer starts again. -/
  | intoParts
  deriving Repr, DecidableEq

/-- What a call answers. -/
inductive Answer where
  /-- Whether the trouble was kept. -/
  | kept (stored : Bool)
  /-- The troubles kept, and the number of those past them. -/
  | parts (stored : List Diagnostic) (suppressed : Nat)
  deriving Repr, DecidableEq

/-- What a call answers, and the buffer after it. -/
def perform (buffer : DiagnosticBuffer) : Call → Answer × DiagnosticBuffer
  | .push diagnostic => (.kept buffer.hasRoom, buffer.push diagnostic)
  | .intoParts => (.parts buffer.stored buffer.suppressed, empty)

/-- The buffer after calls, one after the other, on an empty one. -/
def run (calls : List Call) : DiagnosticBuffer :=
  calls.foldl (fun buffer call ↦ (buffer.perform call).2) empty

end DiagnosticBuffer

end Lexeme
