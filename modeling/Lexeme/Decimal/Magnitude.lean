/-!
# Magnitudes of binary fractions

Magnitudes of binary floating-point numbers of 64 bits. A magnitude counts multiples of the smallest
one, 2^-1074, so that it is a natural number and comparing two of them is comparing numbers. Results
of arithmetic are exact fractions, rounded once to 53 significant bits. There is no upper end here:
a magnitude past the greatest finite one is recognized by `isFinite`.
-/

set_option autoImplicit false
set_option relaxedAutoImplicit false

namespace Lexeme.Decimal

/-- The quotient of two numbers rounded to a whole one; a half goes to the even neighbour. -/
def roundQuotient (dividend divisor : Nat) : Nat :=
  let quotient := dividend / divisor
  let remainder := dividend % divisor
  if divisor < 2 * remainder || (2 * remainder == divisor && quotient % 2 == 1) then quotient + 1
  else quotient

/-- Bits of a number of units past its 53 leading ones. -/
def excessBits (units : Nat) : Nat :=
  units.log2 - 52

/-- Without its excess bits a number has 53 bits at most. -/
theorem div_pow_excessBits_lt (units : Nat) :
    units / Nat.pow 2 (excessBits units) < Nat.pow 2 53 := by
  have bits : units.log2 + 1 ≤ 53 + excessBits units := by
    rw [excessBits]
    omega
  have less : units < 2 ^ (53 + excessBits units) :=
    Nat.lt_of_lt_of_le Nat.lt_log2_self (Nat.pow_le_pow_right (by decide) bits)
  rw [Nat.pow_add] at less
  exact (Nat.div_lt_iff_lt_mul (Nat.two_pow_pos _)).2 less

/-- Up to 53 significant bits, shifted, are nothing but zeros past the leading 53 bits. -/
theorem pow_excessBits_dvd {significand : Nat} (bits : Nat) (h : significand ≤ Nat.pow 2 53) :
    Nat.pow 2 (excessBits (significand * Nat.pow 2 bits)) ∣ significand * Nat.pow 2 bits := by
  simp only [Nat.pow_eq, excessBits] at *
  rcases Nat.eq_or_lt_of_le h with rfl | less
  · rw [← Nat.pow_add, Nat.log2_two_pow]
    exact Nat.pow_dvd_pow 2 (by omega)
  · rcases Nat.eq_zero_or_pos significand with rfl | positive
    · simp
    · have shifted : significand * 2 ^ bits < 2 ^ (53 + bits) := by
        rw [Nat.pow_add]
        exact Nat.mul_lt_mul_of_pos_right less (Nat.two_pow_pos bits)
      have log : (significand * 2 ^ bits).log2 < 53 + bits :=
        (Nat.log2_lt (Nat.ne_of_gt (Nat.mul_pos positive (Nat.two_pow_pos bits)))).2 shifted
      exact Nat.dvd_trans (Nat.pow_dvd_pow 2 (by omega)) (Nat.dvd_mul_left _ _)

theorem roundQuotient_le_succ (dividend divisor : Nat) :
    roundQuotient dividend divisor ≤ dividend / divisor + 1 := by
  rw [roundQuotient]
  split <;> omega

/-- The leading bits of a quotient, rounded, are 53 bits or the next power of two. -/
theorem roundQuotient_le_pow (numerator denominator : Nat) :
    roundQuotient numerator
      (denominator * Nat.pow 2 (excessBits (numerator / denominator))) ≤ Nat.pow 2 53 := by
  have less := div_pow_excessBits_lt (numerator / denominator)
  rw [Nat.div_div_eq_div_mul] at less
  exact Nat.le_trans (roundQuotient_le_succ _ _) less

/-- A multiple of 2^-1074 that 53 significant bits can hold. -/
structure Magnitude where
  units : Nat
  exact : Nat.pow 2 (excessBits units) ∣ units
  deriving Repr, DecidableEq

namespace Magnitude

/-- Number of units in one. -/
def unitsPerOne : Nat := Nat.pow 2 1074

/-- The fraction of two numbers of units, rounded to 53 significant bits; a half goes to the
neighbour with an even last bit. -/
def round (numerator denominator : Nat) : Magnitude :=
  let step := Nat.pow 2 (excessBits (numerator / denominator))
  ⟨roundQuotient numerator (denominator * step) * step,
    pow_excessBits_dvd _ (roundQuotient_le_pow numerator denominator)⟩

def zero : Magnitude := ⟨0, by decide⟩

/-- The magnitude nearest to a natural number. -/
def ofNat (n : Nat) : Magnitude :=
  round (n * unitsPerOne) 1

def add (a b : Magnitude) : Magnitude :=
  round (a.units + b.units) 1

def mul (a b : Magnitude) : Magnitude :=
  round (a.units * b.units) unitsPerOne

/-- The quotient by a magnitude that is not zero. -/
def div (a b : Magnitude) : Magnitude :=
  round (a.units * unitsPerOne) b.units

def isZero (a : Magnitude) : Bool :=
  a.units == 0

/-- Whether a magnitude is at most another. -/
def le (a b : Magnitude) : Bool :=
  a.units ≤ b.units

/-- The first number of units that is too great for a finite number. -/
def finiteEnd : Nat := Nat.pow 2 2098

/-- Whether the magnitude is that of a finite number. -/
def isFinite (a : Magnitude) : Bool :=
  a.units < finiteEnd

end Magnitude

/-- A finite binary floating-point number: a sign, which zero has too, and a finite magnitude. -/
structure Binary64 where
  negative : Bool
  magnitude : Magnitude
  finite : magnitude.isFinite = true
  deriving Repr, DecidableEq

namespace Binary64

/-- The number of a sign and a magnitude, unless the magnitude is too great. -/
def make? (negative : Bool) (magnitude : Magnitude) : Option Binary64 :=
  if h : magnitude.isFinite = true then some ⟨negative, magnitude, h⟩ else none

/-- The greatest finite number without a sign. -/
def greatest : Binary64 :=
  ⟨false, ⟨Magnitude.finiteEnd - Nat.pow 2 2045, by decide +kernel⟩, by decide +kernel⟩

/-- The number of a magnitude without a sign, or the greatest one. -/
def ofMagnitude (magnitude : Magnitude) : Binary64 :=
  (make? false magnitude).getD greatest

end Binary64

end Lexeme.Decimal
