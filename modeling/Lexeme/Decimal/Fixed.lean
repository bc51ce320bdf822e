import Lexeme.Decimal.Magnitude

/-!
# Decimals with a fixed number of places

Decimal text with a fixed number of places after the point. The exact binary value is rounded, and
a half goes to the even neighbour.
-/

set_option autoImplicit false
set_option relaxedAutoImplicit false

namespace Lexeme.Decimal

/-- Decimal digits of a number. -/
def digits (n : Nat) : List Char :=
  Nat.toDigits 10 n

/-- Digits of a number, with leading zeros up to a width. -/
def paddedDigits (width n : Nat) : List Char :=
  let written := digits n
  List.replicate (width - written.length) '0' ++ written

/-- A number of units of the last place as text with that many places. -/
def placeText (places n : Nat) : List Char :=
  if places = 0 then digits n
  else digits (n / Nat.pow 10 places) ++ '.' :: paddedDigits places (n % Nat.pow 10 places)

/-- The magnitude with the given number of places. -/
def Magnitude.fixed (places : Nat) (a : Magnitude) : String :=
  String.ofList
    (placeText places (roundQuotient (a.units * Nat.pow 10 places) Magnitude.unitsPerOne))

/-- The number with the given number of places; the sign of zero is kept. -/
def Binary64.fixed (places : Nat) (x : Binary64) : String :=
  (if x.negative then "-" else "") ++ x.magnitude.fixed places

end Lexeme.Decimal
