import Lexeme.Decimal.Magnitude
import Mathlib.Algebra.Group.Nat.Defs

/-!
# Rounding is monotone

A quotient is rounded to 53 significant bits. Rounding keeps the order of what is rounded
(`Decimal.Magnitude.round_mono`), and leaves alone what 53 bits can hold
(`Decimal.Magnitude.round_mul`), so that nothing is rounded past a magnitude that bounds it
(`Decimal.Magnitude.round_le`). The products and quotients of magnitudes inherit this.
-/

set_option autoImplicit false
set_option relaxedAutoImplicit false

namespace Lexeme.Decimal

theorem div_le_roundQuotient (dividend divisor : Nat) :
    dividend / divisor ≤ roundQuotient dividend divisor := by
  rw [roundQuotient]
  split <;> omega

theorem roundQuotient_mono (divisor : Nat) {a b : Nat} (hab : a ≤ b) :
    roundQuotient a divisor ≤ roundQuotient b divisor := by
  rcases Nat.lt_or_eq_of_le (Nat.div_le_div_right (c := divisor) hab) with hless | heq
  · calc roundQuotient a divisor ≤ a / divisor + 1 := roundQuotient_le_succ a divisor
      _ ≤ b / divisor := hless
      _ ≤ roundQuotient b divisor := div_le_roundQuotient b divisor
  · -- Between two whole numbers, what is above a number that is rounded up is rounded up as well.
    have hremainder : a % divisor ≤ b % divisor := by
      have ha := Nat.div_add_mod a divisor
      have hb := Nat.div_add_mod b divisor
      rw [heq] at ha
      omega
    simp only [roundQuotient, heq, Bool.or_eq_true, Bool.and_eq_true, decide_eq_true_eq, beq_iff_eq]
    split <;> split <;> omega

theorem roundQuotient_mul (quotient : Nat) {divisor : Nat} (hdivisor : 0 < divisor) :
    roundQuotient (quotient * divisor) divisor = quotient := by
  have hremainder : quotient * divisor % divisor = 0 := Nat.mul_mod_left ..
  have hquotient : quotient * divisor / divisor = quotient := Nat.mul_div_cancel _ hdivisor
  simp only [roundQuotient, hremainder, hquotient]
  simp [Nat.ne_of_lt hdivisor]

theorem excessBits_mono {a b : Nat} (hab : a ≤ b) : excessBits a ≤ excessBits b := by
  rcases Nat.eq_zero_or_pos a with rfl | ha
  · exact Nat.zero_le _
  · have hpow : 2 ^ a.log2 ≤ b := Nat.le_trans (Nat.log2_self_le (Nat.ne_of_gt ha)) hab
    have hlog : a.log2 ≤ b.log2 := (Nat.le_log2 (Nat.ne_of_gt (Nat.lt_of_lt_of_le ha hab))).2 hpow
    exact Nat.sub_le_sub_right hlog 52

/-- With excess bits there are 53 bits in front of them. -/
theorem pow_mul_pow_excessBits_le {units : Nat} (hexcess : 0 < excessBits units) :
    2 ^ 52 * 2 ^ excessBits units ≤ units := by
  have hlog : units.log2 = 52 + excessBits units := by
    rw [excessBits] at hexcess ⊢
    omega
  have hne : units ≠ 0 := by
    rintro rfl
    exact Nat.lt_irrefl 0 hexcess
  rw [← Nat.pow_add, ← hlog]
  exact Nat.log2_self_le hne

namespace Magnitude

/-- Rounding keeps the order. -/
theorem round_mono (denominator : Nat) {a b : Nat} (hab : a ≤ b) :
    (round a denominator).units ≤ (round b denominator).units := by
  have hquotient : a / denominator ≤ b / denominator := Nat.div_le_div_right hab
  rcases Nat.lt_or_eq_of_le (excessBits_mono hquotient) with hless | heq
  · -- A power of two lies between two quotients with different numbers of bits.
    have hleading : 2 ^ 52 ≤
        roundQuotient b (denominator * Nat.pow 2 (excessBits (b / denominator))) := by
      refine Nat.le_trans ?_ (div_le_roundQuotient _ _)
      rw [← Nat.div_div_eq_div_mul]
      exact (Nat.le_div_iff_mul_le (Nat.two_pow_pos _)).2
        (pow_mul_pow_excessBits_le (Nat.zero_lt_of_lt hless))
    calc (round a denominator).units
        ≤ Nat.pow 2 53 * Nat.pow 2 (excessBits (a / denominator)) :=
          Nat.mul_le_mul_right _ (roundQuotient_le_pow a denominator)
      _ = 2 ^ 52 * 2 ^ (excessBits (a / denominator) + 1) := by
          rw [Nat.pow_succ 2 (excessBits (a / denominator)), Nat.mul_comm _ 2, ← Nat.mul_assoc]
          rfl
      _ ≤ 2 ^ 52 * 2 ^ excessBits (b / denominator) :=
          Nat.mul_le_mul_left _ (Nat.pow_le_pow_right (by decide) hless)
      _ ≤ (round b denominator).units := Nat.mul_le_mul_right _ hleading
  · simp only [round, heq]
    exact Nat.mul_le_mul_right _ (roundQuotient_mono _ hab)

theorem unitsPerOne_pos : 0 < unitsPerOne := by decide +kernel

theorem eq_of_units_eq {a b : Magnitude} (hunits : a.units = b.units) : a = b := by
  cases a
  cases b
  cases hunits
  rfl

/-- A magnitude is not changed by rounding. -/
theorem round_mul (magnitude : Magnitude) {denominator : Nat} (hdenominator : 0 < denominator) :
    round (magnitude.units * denominator) denominator = magnitude := by
  obtain ⟨units, significand, hunits⟩ := magnitude
  have hquotient : units * denominator / denominator = units := Nat.mul_div_cancel _ hdenominator
  have hdividend : units * denominator =
      significand * (denominator * Nat.pow 2 (excessBits units)) :=
    calc units * denominator = Nat.pow 2 (excessBits units) * significand * denominator :=
          congrArg (· * denominator) hunits
      _ = significand * (denominator * Nat.pow 2 (excessBits units)) := by
          rw [Nat.mul_comm _ significand, Nat.mul_assoc, Nat.mul_comm denominator]
  have hround : roundQuotient (significand * (denominator * Nat.pow 2 (excessBits units)))
      (denominator * Nat.pow 2 (excessBits units)) = significand :=
    roundQuotient_mul significand
      (Nat.mul_pos hdenominator (Nat.two_pow_pos (excessBits units)))
  refine eq_of_units_eq ?_
  calc (round (units * denominator) denominator).units
      = roundQuotient (units * denominator) (denominator * Nat.pow 2 (excessBits units)) *
          Nat.pow 2 (excessBits units) := by
        simp only [round, hquotient]
    _ = significand * Nat.pow 2 (excessBits units) := by rw [hdividend, hround]
    _ = units := by rw [Nat.mul_comm, ← hunits]

theorem round_le {magnitude : Magnitude} {numerator denominator : Nat}
    (hdenominator : 0 < denominator) (hle : numerator ≤ magnitude.units * denominator) :
    (round numerator denominator).units ≤ magnitude.units := by
  have hround := round_mono denominator hle
  rwa [round_mul magnitude hdenominator] at hround

theorem ofNat_mono {a b : Nat} (hab : a ≤ b) : (ofNat a).units ≤ (ofNat b).units :=
  round_mono 1 (Nat.mul_le_mul_right _ hab)

theorem mul_mono {a b c d : Magnitude} (hab : a.units ≤ b.units) (hcd : c.units ≤ d.units) :
    (a.mul c).units ≤ (b.mul d).units :=
  round_mono unitsPerOne (Nat.mul_le_mul hab hcd)

theorem isFinite_of_le {a b : Magnitude} (hab : a.units ≤ b.units) (hfinite : b.isFinite = true) :
    a.isFinite = true :=
  decide_eq_true (Nat.lt_of_le_of_lt hab (of_decide_eq_true hfinite))

/-- Division by one or more makes nothing greater. -/
theorem div_le (magnitude : Magnitude) {divisor : Magnitude}
    (hdivisor : unitsPerOne ≤ divisor.units) :
    (magnitude.div divisor).units ≤ magnitude.units :=
  round_le (Nat.lt_of_lt_of_le unitsPerOne_pos hdivisor) (Nat.mul_le_mul_left _ hdivisor)

end Magnitude

end Lexeme.Decimal
