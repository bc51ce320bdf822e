import Lexeme.CharClass
import Lexeme.Span

/-!
# Tokens at byte offsets

Tokens read at byte offsets of a source. Where `Munch` is given the text from the token on, these
functions are given the whole source and the offset at which the token starts, and they return the
offset behind it with the token. A part of a source can be taken only between offsets that lie
between characters; any other offset is a fault. That a token of the kind can start at the offset is
up to the caller.
-/

set_option autoImplicit false
set_option relaxedAutoImplicit false

namespace Lexeme

open Text (isDecimalDigit)

/-- What can go wrong with byte offsets. -/
inductive OffsetFault where
  /-- A part of a source has an end inside a character or behind the source, or ends before it
  starts. -/
  | slice (first last : Nat)
  /-- A span stops before it starts. -/
  | span (start stop : Nat)
  /-- A step does not lead on from an offset. -/
  | stuck (offset : Nat)
  deriving Repr, DecidableEq

namespace TokenAt

/-- The part of a source between two offsets. -/
def slice (source : String) (first last : Nat) : Except OffsetFault (List Char) :=
  match Text.slice? first last source.toList with
  | some part => .ok part
  | none => .error (.slice first last)

/-- The part of a source from an offset on. -/
def sliceFrom (source : String) (first : Nat) : Except OffsetFault (List Char) :=
  slice source first source.utf8ByteSize

/-- The offset of the first character that passes a test, when the text starts at `offset`. -/
def find? (test : Char → Bool) (offset : Nat) : List Char → Option Nat
  | [] => none
  | c :: cs => if test c then some offset else find? test (offset + c.utf8Size) cs

/-- Bytes of the first character, if there is one. -/
def firstWidth : List Char → Nat
  | [] => 0
  | c :: _ => c.utf8Size

/-- The offset behind the first two characters of a text that starts at `offset`. -/
def pairEnd? (offset : Nat) : List Char → Option Nat
  | c :: d :: _ => some (offset + c.utf8Size + d.utf8Size)
  | _ => none

/-- The offset of the first character from `start` on that fails a test, or the end of the
source. -/
def runEnd (source : String) (start : Nat) (keep : Char → Bool) : Except OffsetFault Nat := do
  let rest ← sliceFrom source start
  pure ((find? (fun c ↦ !keep c) start rest).getD source.utf8ByteSize)

/-- The token of a kind that has the text between two offsets. -/
def between (kind : TokenKind) (source : String) (start stop : Nat) :
    Except OffsetFault (Token × Nat) := do
  let text ← slice source start stop
  pure (⟨kind, String.ofList text⟩, stop)

/-- The longest run of decimal digits. -/
def number (source : String) (start : Nat) : Except OffsetFault (Token × Nat) := do
  let stop ← runEnd source start isDecimalDigit
  between .number source start stop

/-- The first character with the longest run of word characters after it. -/
def word (source : String) (start : Nat) : Except OffsetFault (Token × Nat) := do
  let rest ← sliceFrom source start
  let stop ← runEnd source (start + firstWidth rest) isWordContinue
  between .word source start stop

/-- The text from behind the quote at the offset up to the next quote, if there is a next one. -/
def string? (source : String) (start : Nat) : Except OffsetFault (Option (Token × Nat)) := do
  let bodyStart := start + Char.utf8Size '"'
  let rest ← sliceFrom source bodyStart
  match find? (· == '"') bodyStart rest with
  | none => pure none
  | some bodyEnd =>
    let body ← slice source bodyStart bodyEnd
    pure (some (⟨.string, String.ofList body⟩, bodyEnd + Char.utf8Size '"'))

/-- Two characters if they make an operator together, otherwise one. -/
def operator (source : String) (start : Nat) : Except OffsetFault (Token × Nat) := do
  let rest ← sliceFrom source start
  let single := between .operator source start (start + firstWidth rest)
  match pairEnd? start rest with
  | none => single
  | some stop =>
    let pair ← between .operator source start stop
    if isPairOperator pair.1.text then pure pair else single

/-- One character. -/
def delimiter (source : String) (start : Nat) : Except OffsetFault (Token × Nat) := do
  let rest ← sliceFrom source start
  between .delimiter source start (start + firstWidth rest)

/-- The token of a kind. Only a string can be missing, when it is never closed. -/
def ofKind? (kind : TokenKind) (source : String) (start : Nat) :
    Except OffsetFault (Option (Token × Nat)) :=
  match kind with
  | .number => some <$> number source start
  | .word => some <$> word source start
  | .string => string? source start
  | .operator => some <$> operator source start
  | .delimiter => some <$> delimiter source start

end TokenAt

end Lexeme
