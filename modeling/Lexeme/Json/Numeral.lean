import Lexeme.Decimal.Fixed
import Lexeme.Decimal.Shortest
import Lexeme.Text.Hexadecimal

/-!
# JSON numbers

Numbers as JSON writes them: a sign, decimal digits, and perhaps digits after a point and a power of
ten. A numeral stands for a natural number, a binary fraction, or both, depending on what is asked
of it. A binary fraction is written by its shortest decimal form, without a power of ten while the
point stays close to the digits.
-/

set_option autoImplicit false
set_option relaxedAutoImplicit false

namespace Lexeme.Json

open Decimal (Binary64 Magnitude Scientific)

/-- A written power of ten: a sign, and digits. -/
structure Exponent where
  negative : Bool
  digits : List Char
  deriving Repr, DecidableEq

namespace Exponent

/-- The exponent of a power of ten. -/
def ofInt (exponent : Int) : Exponent :=
  ⟨exponent < 0, Decimal.digits exponent.natAbs⟩

/-- The size from which on all exponents are the same: no digits of a number make up for it. -/
def greatestSize : Nat := Nat.pow 2 31

/-- The exponent as a number. -/
def value (exponent : Exponent) : Int :=
  let size := (Text.numberBelow? 10 greatestSize exponent.digits).getD greatestSize
  if exponent.negative then -size else size

end Exponent

/-- A written number. Without digits after the point there is no point either. -/
structure Numeral where
  negative : Bool
  whole : List Char
  fraction : List Char
  exponent : Option Exponent
  deriving Repr, DecidableEq

/-- The first number too great for a counter. -/
def counterEnd : Nat := Nat.pow 2 64

namespace Numeral

/-- The numeral of a natural number. -/
def ofNat (n : Nat) : Numeral :=
  ⟨false, Decimal.digits n, [], none⟩

/-- The counter a numeral stands for; a sign, a point or a power of ten makes it none. -/
def toNat? (numeral : Numeral) : Option Nat :=
  if numeral.negative || !numeral.fraction.isEmpty || numeral.exponent.isSome then none
  else Text.numberBelow? 10 counterEnd numeral.whole

/-- The numeral of a decimal number. -/
def ofScientific (negative : Bool) (decimal : Scientific) : Numeral :=
  let digits := Decimal.digits decimal.digits
  let point := digits.length + decimal.exponent
  if 0 ≤ decimal.exponent ∧ point ≤ 16 then
    ⟨negative, digits ++ List.replicate decimal.exponent.toNat '0', ['0'], none⟩
  else if 0 < point ∧ point ≤ 16 then
    ⟨negative, digits.take point.toNat, digits.drop point.toNat, none⟩
  else if -5 < point ∧ point ≤ 0 then
    ⟨negative, ['0'], List.replicate (-point).toNat '0' ++ digits, none⟩
  else
    ⟨negative, digits.take 1, digits.drop 1, some (.ofInt (point - 1))⟩

/-- The numeral of a binary fraction. -/
def ofBinary64 (x : Binary64) : Numeral :=
  ofScientific x.negative x.magnitude.shortest

/-- Takes in digits for as long as the value stays below the end of counters; the digits left over
come with the value. -/
def gather (value : Nat) : List Char → Nat × List Char
  | [] => (value, [])
  | c :: cs =>
    let next := value * 10 + (c.toNat - '0'.toNat)
    if next < counterEnd then gather next cs else (value, c :: cs)

/-- The greatest power of ten that is applied in one step. -/
def greatestPower : Nat := 308

/-- A magnitude times a power of ten, by one multiplication or division, after divisions by the
greatest power where the power of ten is smaller still. A result too great is none. -/
def scale? (value : Magnitude) (exponent : Int) : Option Magnitude :=
  if 0 ≤ exponent then
    if exponent ≤ greatestPower then
      let scaled := value.mul (.ofNat (Nat.pow 10 exponent.toNat))
      if scaled.isFinite then some scaled else none
    else if value.isZero then some value
    else none
  else if -greatestPower ≤ exponent then
    some (value.div (.ofNat (Nat.pow 10 (-exponent).toNat)))
  else if value.isZero then some value
  else scale? (value.div (.ofNat (Nat.pow 10 greatestPower))) (exponent + greatestPower)
termination_by (-exponent).toNat
decreasing_by
  simp only [greatestPower] at *
  omega

/-- The binary fraction a numeral stands for. Digits are gathered as far as a counter holds them,
and the rest of the whole digits count as a power of ten. -/
def toBinary64? (numeral : Numeral) : Option Binary64 := do
  let (value, wholeLeft) := gather 0 numeral.whole
  let (value, fractionLeft) := gather value numeral.fraction
  let exponent : Int :=
    wholeLeft.length - (numeral.fraction.length - fractionLeft.length) +
      (numeral.exponent.map Exponent.value).getD 0
  Binary64.make? numeral.negative (← scale? (.ofNat value) exponent)

end Numeral

end Lexeme.Json
