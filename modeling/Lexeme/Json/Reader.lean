import Lexeme.Json.Text
import Lexeme.Text.Hexadecimal

/-!
# Reading JSON

Reading JSON text. The text holds one value and nothing after it but blanks. Each step of the reader
returns what follows the part that it has read.
-/

set_option autoImplicit false
set_option relaxedAutoImplicit false

namespace Lexeme.Json

def skipSpace (cs : List Char) : List Char :=
  cs.dropWhile isSpace

/-- The character behind a backslash and one letter. -/
def shortEscape? : Char → Option Char
  | '"' => some '"'
  | '\\' => some '\\'
  | '/' => some '/'
  | 'b' => some '\x08'
  | 'f' => some '\x0c'
  | 'n' => some '\n'
  | 'r' => some '\r'
  | 't' => some '\t'
  | _ => none

/-- The code points of a string up to its closing quote, halves of surrogate pairs among them, and
what follows the quote. Those read so far are given in reverse. -/
def codePoints (found : List Nat) : List Char → Option (List Nat × List Char)
  | [] => none
  | '"' :: rest => some (found.reverse, rest)
  | '\\' :: 'u' :: a :: b :: c :: d :: rest =>
    match Text.hexNumber? [a, b, c, d] with
    | some code => codePoints (code :: found) rest
    | none => none
  | '\\' :: c :: rest =>
    match shortEscape? c with
    | some c => codePoints (c.toNat :: found) rest
    | none => none
  | c :: rest => if c.toNat < 0x20 then none else codePoints (c.toNat :: found) rest

/-- The text of code points, in which a first half of a surrogate pair must stand before a second
one. Characters found so far are given in reverse. -/
def joinHalves (found : List Char) : List Nat → Option (List Char)
  | [] => some found.reverse
  | code :: rest =>
    if code.isValidChar then joinHalves (Char.ofNat code :: found) rest
    else
      match rest with
      | [] => none
      | second :: rest =>
        if code < 0xdc00 ∧ 0xdc00 ≤ second ∧ second < 0xe000 then
          joinHalves (Char.ofNat (0x10000 + (code - 0xd800) * 0x400 + (second - 0xdc00)) :: found)
            rest
        else
          none

/-- A string behind its opening quote, and what follows it. The text is missing if the string holds
half of a surrogate pair. -/
def readString (cs : List Char) : Option (Option String × List Char) :=
  (codePoints [] cs).map fun (codes, rest) ↦ ((joinHalves [] codes).map String.ofList, rest)

/-- The digits after a point, if there is a point. -/
def readFraction : List Char → Option (List Char × List Char)
  | '.' :: rest =>
    let digits := rest.takeWhile Char.isDigit
    if digits.isEmpty then none else some (digits, rest.dropWhile Char.isDigit)
  | rest => some ([], rest)

/-- A power of ten behind its letter. -/
def readPower (cs : List Char) : Option (Option Exponent × List Char) :=
  let (negative, cs) := match cs with
    | '-' :: rest => (true, rest)
    | '+' :: rest => (false, rest)
    | _ => (false, cs)
  let digits := cs.takeWhile Char.isDigit
  if digits.isEmpty then none else some (some ⟨negative, digits⟩, cs.dropWhile Char.isDigit)

/-- A power of ten, if there is one. -/
def readExponent : List Char → Option (Option Exponent × List Char)
  | 'e' :: rest => readPower rest
  | 'E' :: rest => readPower rest
  | rest => some (none, rest)

/-- A number behind its sign. A zero in front stands alone. -/
def readUnsigned (negative : Bool) (cs : List Char) : Option (Numeral × List Char) := do
  let whole := cs.takeWhile Char.isDigit
  match whole with
  | [] => none
  | '0' :: _ :: _ => none
  | _ =>
    let (fraction, rest) ← readFraction (cs.dropWhile Char.isDigit)
    let (exponent, rest) ← readExponent rest
    some (⟨negative, whole, fraction, exponent⟩, rest)

/-- A number. -/
def readNumeral : List Char → Option (Numeral × List Char)
  | '-' :: rest => readUnsigned true rest
  | cs => readUnsigned false cs

/-- The object of members whose keys may be missing. -/
def objectOf (members : List (Option String × Value)) : Value :=
  match members.mapM fun (key, value) ↦ key.map (·, value) with
  | some members => .object members
  | none => .unreadable

mutual

/-- A value, after any spaces. The first argument bounds the depth of the calls. -/
def readValue : Nat → List Char → Option (Value × List Char)
  | 0, _ => none
  | fuel + 1, cs =>
    match skipSpace cs with
    | '"' :: rest => (readString rest).map fun (text, rest) ↦
      ((text.map Value.string).getD .unreadable, rest)
    | '[' :: rest =>
      match skipSpace rest with
      | ']' :: rest => some (.array [], rest)
      | rest => (readItems fuel [] rest).map fun (items, rest) ↦ (.array items, rest)
    | '{' :: rest =>
      match skipSpace rest with
      | '}' :: rest => some (.object [], rest)
      | rest => (readMembers fuel [] rest).map fun (members, rest) ↦ (objectOf members, rest)
    | 'n' :: 'u' :: 'l' :: 'l' :: rest => some (.null, rest)
    | 't' :: 'r' :: 'u' :: 'e' :: rest => some (.boolean true, rest)
    | 'f' :: 'a' :: 'l' :: 's' :: 'e' :: rest => some (.boolean false, rest)
    | cs => (readNumeral cs).map fun (numeral, rest) ↦ (.number numeral, rest)

/-- The items of an array up to its end; those read so far are given in reverse. -/
def readItems : Nat → List Value → List Char → Option (List Value × List Char)
  | 0, _, _ => none
  | fuel + 1, found, cs =>
    match readValue fuel cs with
    | none => none
    | some (item, rest) =>
      match skipSpace rest with
      | ',' :: rest => readItems fuel (item :: found) rest
      | ']' :: rest => some ((item :: found).reverse, rest)
      | _ => none

/-- The members of an object up to its end; those read so far are given in reverse. -/
def readMembers : Nat → List (Option String × Value) → List Char →
    Option (List (Option String × Value) × List Char)
  | 0, _, _ => none
  | fuel + 1, found, cs =>
    match skipSpace cs with
    | '"' :: rest =>
      match readString rest with
      | none => none
      | some (key, rest) =>
        match skipSpace rest with
        | ':' :: rest =>
          match readValue fuel rest with
          | none => none
          | some (value, rest) =>
            match skipSpace rest with
            | ',' :: rest => readMembers fuel ((key, value) :: found) rest
            | '}' :: rest => some (((key, value) :: found).reverse, rest)
            | _ => none
        | _ => none
    | _ => none

end

/-- The value that a text holds. -/
def Value.ofText? (text : String) : Option Value :=
  let cs := text.toList
  match readValue (2 * cs.length + 2) cs with
  | some (value, rest) => if (skipSpace rest).isEmpty then some value else none
  | none => none

end Lexeme.Json
