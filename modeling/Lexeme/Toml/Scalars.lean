import Lexeme.Text.Hexadecimal
import Lexeme.Toml.Strings
import Lexeme.Toml.Value

/-!
# TOML numbers, dates and switches

Reading TOML numbers, dates and switches. Whole numbers have 64 bits; a fraction may not be so great
that it counts as infinite, unless it is negative or called infinite.
-/

set_option autoImplicit false
set_option relaxedAutoImplicit false

namespace Lexeme.Toml

open Text (hexValue? numberBelow?)

/-- Digits after the first one, without the single underscores between them; those so far are given
in reverse. -/
def moreDigits (isDigit : Char → Bool) (found : List Char) :
    List Char → Option (List Char × List Char)
  | '_' :: c :: rest => if isDigit c then moreDigits isDigit (c :: found) rest else none
  | ['_'] => none
  | c :: rest =>
    if isDigit c then moreDigits isDigit (c :: found) rest else some (found.reverse, c :: rest)
  | [] => some (found.reverse, [])

/-- One digit or more, with single underscores between them. -/
def readDigits (isDigit : Char → Bool) : List Char → Option (List Char × List Char)
  | c :: rest => if isDigit c then moreDigits isDigit [c] rest else none
  | [] => none

/-- A sign, and whether it is negative. -/
def readSign : List Char → Bool × List Char
  | '-' :: rest => (true, rest)
  | '+' :: rest => (false, rest)
  | cs => (false, cs)

/-- Digits of which the first is no zero, or a zero alone. -/
def readWhole : List Char → Option (List Char × List Char)
  | '0' :: rest => some (['0'], rest)
  | cs => readDigits Char.isDigit cs

/-- The whole number of a sign and digits of a base, if 64 bits can hold it. -/
def wholeNumber? (base : Nat) (negative : Bool) (digits : List Char) : Option Value :=
  if negative then (numberBelow? base (Nat.pow 2 63 + 1) digits).map fun size ↦ .integer (-size)
  else (numberBelow? base (Nat.pow 2 63) digits).map fun size ↦ .integer size

def isOctalDigit (c : Char) : Bool := '0' ≤ c && c ≤ '7'

def isBinaryDigit (c : Char) : Bool := c == '0' || c == '1'

def isHexDigit (c : Char) : Bool := (hexValue? c).isSome

/-- Digits of a base, after the two characters that announce it. -/
def readBased (base : Nat) (isDigit : Char → Bool) (cs : List Char) :
    Option (Value × List Char) := do
  let (digits, rest) ← readDigits isDigit cs
  some (← wholeNumber? base false digits, rest)

/-- The digits after a point, if there is one. -/
def readPlaces : List Char → Option (List Char × List Char)
  | '.' :: rest => readDigits Char.isDigit rest
  | cs => some ([], cs)

/-- The size of an exponent. A digit does not count once the digits before it have come to 2^16. -/
def exponentSize (digits : List Char) : Nat :=
  digits.foldl (fun size c ↦
    if size < Nat.pow 2 16 then size * 10 + (c.toNat - '0'.toNat) else size) 0

/-- A power of ten, if there is one. -/
def readExponent (cs : List Char) : Option (Option Int × List Char) := do
  match cs with
  | c :: rest =>
    if c == 'e' || c == 'E' then
      let (negative, rest) := readSign rest
      let (digits, rest) ← readDigits Char.isDigit rest
      let size : Int := exponentSize digits
      some (some (if negative then -size else size), rest)
    else some (none, cs)
  | [] => some (none, [])

/-- The least number that counts as infinite: half a step past the greatest binary number of 64 bits,
where rounding goes up. It has 309 digits. -/
def infiniteFrom : Nat := Nat.pow 2 1024 - Nat.pow 2 970

/-- Whether a number counts as infinite: its digits, and the power of ten of the last one. Only its
first 309 digits matter. -/
def isInfinite (digits : List Char) (exponent : Int) : Bool :=
  let significant := digits.dropWhile (· == '0')
  let reach := significant.length + exponent
  if significant.isEmpty || reach < 309 then false
  else
    309 < reach ||
      (numberBelow? 10 infiniteFrom ((significant ++ List.replicate 309 '0').take 309)).isNone

/-- A decimal number, whole or not. -/
def readDecimal (cs : List Char) : Option (Value × List Char) := do
  let (negative, unsigned) := readSign cs
  let (whole, rest) ← readWhole unsigned
  let (places, rest) ← readPlaces rest
  let (exponent, rest) ← readExponent rest
  if places.isEmpty && exponent.isNone then
    some (← wholeNumber? 10 negative whole, rest)
  else if !negative && isInfinite (whole ++ places) (exponent.getD 0 - places.length) then none
  else some (.fraction, rest)

/-- A number called infinite or not a number, after its sign. -/
def readNamedFraction : List Char → Option (Value × List Char)
  | 'i' :: 'n' :: 'f' :: rest => some (.fraction, rest)
  | 'n' :: 'a' :: 'n' :: rest => some (.fraction, rest)
  | _ => none

/-- A number of any form. -/
def readNumber (cs : List Char) : Option (Value × List Char) :=
  match cs with
  | '0' :: 'x' :: rest => readBased 16 isHexDigit rest
  | '0' :: 'o' :: rest => readBased 8 isOctalDigit rest
  | '0' :: 'b' :: rest => readBased 2 isBinaryDigit rest
  | _ => (readNamedFraction (readSign cs).2).orElse fun _ ↦ readDecimal cs

/-- A number of just so many digits within bounds. -/
def readField (width low high : Nat) (cs : List Char) : Option (Nat × List Char) :=
  let digits := cs.take width
  if digits.length = width && digits.all Char.isDigit then do
    let value ← numberBelow? 10 (high + 1) digits
    if low ≤ value then some (value, cs.drop width) else none
  else none

/-- What follows an expected character. -/
def expect (c : Char) : List Char → Option (List Char)
  | d :: rest => if d = c then some rest else none
  | [] => none

def isLeapYear (year : Nat) : Bool :=
  year % 4 == 0 && (year % 100 != 0 || year % 400 == 0)

/-- Number of days of a month. -/
def daysInMonth (year month : Nat) : Nat :=
  if month = 2 then if isLeapYear year then 29 else 28
  else if month = 4 || month = 6 || month = 9 || month = 11 then 30
  else 31

/-- What follows a date. -/
def skipDate (cs : List Char) : Option (List Char) := do
  let (year, rest) ← readField 4 0 9999 cs
  let (month, rest) ← readField 2 1 12 (← expect '-' rest)
  let (_, rest) ← readField 2 1 (daysInMonth year month) (← expect '-' rest)
  some rest

/-- What follows the digits after the point of a second, if there is a point. -/
def skipPlaces (cs : List Char) : Option (List Char) :=
  match cs with
  | '.' :: c :: rest => if c.isDigit then some (rest.dropWhile Char.isDigit) else none
  | '.' :: [] => none
  | _ => some cs

/-- What follows a time of day. A minute may have a second too many. -/
def skipTime (cs : List Char) : Option (List Char) := do
  let (_, rest) ← readField 2 0 23 cs
  let (_, rest) ← readField 2 0 59 (← expect ':' rest)
  let (_, rest) ← readField 2 0 60 (← expect ':' rest)
  skipPlaces rest

/-- What follows a distance from universal time, if there is one. -/
def skipOffset (cs : List Char) : Option (List Char) :=
  match cs with
  | c :: rest =>
    if c == 'Z' || c == 'z' then some rest
    else if c == '+' || c == '-' then do
      let (_, rest) ← readField 2 0 23 rest
      let (_, rest) ← readField 2 0 59 (← expect ':' rest)
      some rest
    else some cs
  | [] => some []

/-- What follows the time of a date, if there is one. -/
def skipTimeOfDate (cs : List Char) : Option (List Char) :=
  match cs with
  | c :: rest =>
    if c == 'T' || c == 't' || c == ' ' then
      match skipTime rest with
      | some rest => skipOffset rest
      | none => some cs
    else some cs
  | [] => some []

/-- A date, a time of day, or both. -/
def readDate (cs : List Char) : Option (Value × List Char) := do
  let rest ← match skipDate cs with
    | some rest => skipTimeOfDate rest
    | none => skipTime cs
  some (.date, rest)

/-- A switch, a date or a number. -/
def readScalar (cs : List Char) : Option (Value × List Char) :=
  match cs with
  | 't' :: 'r' :: 'u' :: 'e' :: rest => some (.boolean true, rest)
  | 'f' :: 'a' :: 'l' :: 's' :: 'e' :: rest => some (.boolean false, rest)
  | _ => (readDate cs).orElse fun _ ↦ readNumber cs

end Lexeme.Toml
