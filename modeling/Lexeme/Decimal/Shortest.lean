import Lexeme.Decimal.Magnitude

/-!
# Shortest decimals

The shortest decimal form of a binary number: as few significant digits as possible such that the
number read back is the same, and of those digits the nearest to it. A number is read back from any
decimal that rounds to it, which is an interval around it; its ends belong to it when the last bit
of the number is even.
-/

set_option autoImplicit false
set_option relaxedAutoImplicit false

namespace Lexeme.Decimal

/-- A decimal number: its significant digits read as a whole number, times a power of ten. -/
structure Scientific where
  digits : Nat
  exponent : Int
  deriving Repr, DecidableEq

namespace Magnitude

/-- Four times the number of units from the magnitude up to the end of its interval. -/
def upperReach (units : Nat) : Nat :=
  2 * Nat.pow 2 (excessBits units)

/-- Four times the number of units from the start of the interval up to the magnitude. Below a power
of two the neighbours are closer together. -/
def lowerReach (units : Nat) : Nat :=
  let step := Nat.pow 2 (excessBits units)
  if 1 < step ∧ units = Nat.pow 2 52 * step then step else 2 * step

/-- The units of a magnitude, multiplied such that the step of a decimal grid is a whole number. -/
def scaledUnits (units : Nat) (exponent : Int) : Nat :=
  units * Nat.pow 10 (-exponent).toNat

/-- The step 10^`exponent` of a decimal grid in units, multiplied likewise. -/
def gridStep (exponent : Int) : Nat :=
  unitsPerOne * Nat.pow 10 exponent.toNat

/-- Whether a point of the decimal grid of step 10^`exponent` is read back as the magnitude. -/
def readsBack (units : Nat) (exponent : Int) (point : Nat) : Bool :=
  let scaled := 4 * point * gridStep exponent
  let low := scaledUnits (4 * units - lowerReach units) exponent
  let high := scaledUnits (4 * units + upperReach units) exponent
  if (units / Nat.pow 2 (excessBits units)) % 2 = 0 then low ≤ scaled && scaled ≤ high
  else low < scaled && scaled < high

/-- The point of a decimal grid that is read back as the magnitude and is the nearest to it, if the
grid has one. Only the two points around the magnitude can be; of two equally near ones the even one
is taken. -/
def nearestPoint? (units : Nat) (exponent : Int) : Option Nat :=
  let below := scaledUnits units exponent / gridStep exponent
  let nearest := roundQuotient (scaledUnits units exponent) (gridStep exponent)
  let other := if nearest = below then below + 1 else below
  if readsBack units exponent nearest then some nearest
  else if readsBack units exponent other then some other
  else none

/-- A power of ten by which even the smallest magnitude becomes greater than one. -/
def magnification : Nat := Nat.pow 10 324

/-- Power of ten of the leading digit of a magnitude that is not zero. -/
def leadingExponent (units : Nat) : Int :=
  ((Nat.toDigits 10 (units * magnification / unitsPerOne)).length : Int) - 325

/-- The decimal of the fewest digits that is read back, among numbers of digits from `count` on. -/
def shortestFrom (units count : Nat) : Nat → Scientific
  | 0 => ⟨units, 0⟩
  | more + 1 =>
    let exponent := leadingExponent units + 1 - count
    match nearestPoint? units exponent with
    | some point => ⟨point, exponent⟩
    | none => shortestFrom units (count + 1) more

/-- Moves the zeros at the end of the digits into the power of ten. -/
def dropZeros (digits : Nat) (exponent : Int) : Nat → Scientific
  | 0 => ⟨digits, exponent⟩
  | more + 1 =>
    if digits ≠ 0 ∧ digits % 10 = 0 then dropZeros (digits / 10) (exponent + 1) more
    else ⟨digits, exponent⟩

/-- The shortest decimal form of a magnitude. Seventeen digits always suffice. -/
def shortest (a : Magnitude) : Scientific :=
  if a.units = 0 then ⟨0, 0⟩
  else
    let found := shortestFrom a.units 1 17
    dropZeros found.digits found.exponent 17

end Magnitude

end Lexeme.Decimal
