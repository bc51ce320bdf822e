import Lexeme.Decimal.Shortest
import Lexeme.Proofs.Rounding
import Mathlib.Tactic.Ring

/-!
# The shortest decimal form

A decimal with few digits is searched on grids that get finer step by step. On the grid for a number
of digits the magnitude has just this number of digits (`Decimal.Magnitude.scaledUnits_bounds`), and
for seventeen of them a step is so small that a point is read back as the magnitude
(`Decimal.Magnitude.isSome_nearestPoint?`), so that the search succeeds
(`Decimal.Magnitude.exists_shortestFrom_eq`). What is read back as a finite magnitude is at most
halfway past the greatest one (`Decimal.Magnitude.four_mul_add_upperReach_le`). Together this bounds
the digits and the power of ten of the shortest form (`Decimal.Magnitude.short_shortest`).
-/

set_option autoImplicit false
set_option relaxedAutoImplicit false

namespace Lexeme.Decimal.Magnitude

/-! ### Decimal grids -/

theorem scaledUnits_four_add (units reach : Nat) (exponent : Int) :
    scaledUnits (4 * units + reach) exponent =
      4 * scaledUnits units exponent + scaledUnits reach exponent := by
  simp only [scaledUnits]
  rw [Nat.add_mul, Nat.mul_assoc]

theorem scaledUnits_four_sub (units reach : Nat) (exponent : Int) :
    scaledUnits (4 * units - reach) exponent =
      4 * scaledUnits units exponent - scaledUnits reach exponent := by
  simp only [scaledUnits]
  rw [Nat.sub_mul, Nat.mul_assoc]

theorem scaledUnits_mono {a b : Nat} (hab : a ≤ b) (exponent : Int) :
    scaledUnits a exponent ≤ scaledUnits b exponent :=
  Nat.mul_le_mul_right _ hab

theorem scaledUnits_natCast (units exponent : Nat) : scaledUnits units exponent = units := by
  simp [scaledUnits]

theorem gridStep_pos (exponent : Int) : 0 < gridStep exponent :=
  Nat.mul_pos unitsPerOne_pos (Nat.pow_pos (by decide))

theorem magnification_eq : magnification = 10 ^ 324 := by decide +kernel

theorem unitsPerOne_le_magnification : unitsPerOne ≤ magnification := by decide +kernel

/-- The power of ten of the leading digit, and the two powers between which the magnitude lies. -/
theorem exists_leadingExponent_eq {units : Nat} (hunits : 0 < units) :
    ∃ length : Nat, leadingExponent units = length - 325 ∧ 0 < length ∧
      unitsPerOne * 10 ^ (length - 1) ≤ units * magnification ∧
      units * magnification < unitsPerOne * 10 ^ length := by
  have hpos : 0 < units * magnification / unitsPerOne :=
    Nat.div_pos (unitsPerOne_le_magnification.trans (Nat.le_mul_of_pos_left _ hunits))
      unitsPerOne_pos
  have hlength : 0 < (Nat.toDigits 10 (units * magnification / unitsPerOne)).length :=
    Nat.length_toDigits_pos
  refine ⟨_, rfl, hlength, ?_, ?_⟩
  · rw [Nat.mul_comm, ← Nat.le_div_iff_mul_le unitsPerOne_pos]
    by_contra hless
    rcases Nat.eq_zero_or_pos ((Nat.toDigits 10 (units * magnification / unitsPerOne)).length - 1)
      with hzero | hmore
    · rw [hzero, Nat.pow_zero] at hless
      exact hless hpos
    · have hshort := (Nat.length_toDigits_le_iff (by decide) hmore).2 (Nat.lt_of_not_le hless)
      exact absurd hshort (by omega)
  · rw [Nat.mul_comm unitsPerOne, ← Nat.div_lt_iff_lt_mul unitsPerOne_pos]
    exact (Nat.length_toDigits_le_iff (by decide) hlength).1 le_rfl

/-- On the grid of the exponent for a number of digits, a magnitude has this number of digits. -/
theorem scaledUnits_bounds {units : Nat} (hunits : 0 < units) (count : Nat) :
    let exponent := leadingExponent units + 1 - (count + 1 : Nat)
    10 ^ count * gridStep exponent ≤ scaledUnits units exponent ∧
      scaledUnits units exponent < 10 ^ (count + 1) * gridStep exponent ∧
      -324 - count ≤ exponent := by
  intro exponent
  obtain ⟨length, hleading, hlength, hlower, hupper⟩ := exists_leadingExponent_eq hunits
  have hscale : length + (-exponent).toNat = exponent.toNat + (count + 1) + 324 := by omega
  have hpow (n : Nat) : 0 < 10 ^ n := Nat.pow_pos (by decide)
  have hmagnification : 0 < magnification :=
    unitsPerOne_pos.trans_le unitsPerOne_le_magnification
  have hsplit (n : Nat) : unitsPerOne * 10 ^ (exponent.toNat + n + 324) =
      10 ^ n * gridStep exponent * magnification := by
    rw [pow_add _ _ 324, ← magnification_eq, pow_add, gridStep, Nat.pow_eq]
    ring
  have hunscaled : units * magnification * 10 ^ (-exponent).toNat =
      scaledUnits units exponent * magnification := Nat.mul_right_comm ..
  refine ⟨?_, ?_, by omega⟩
  · refine Nat.le_of_mul_le_mul_right ?_ hmagnification
    calc 10 ^ count * gridStep exponent * magnification
        = unitsPerOne * 10 ^ (exponent.toNat + count + 324) := (hsplit count).symm
      _ = unitsPerOne * 10 ^ (length - 1) * 10 ^ (-exponent).toNat := by
          rw [Nat.mul_assoc, ← Nat.pow_add]
          congr 2
          omega
      _ ≤ units * magnification * 10 ^ (-exponent).toNat := Nat.mul_le_mul_right _ hlower
      _ = scaledUnits units exponent * magnification := hunscaled
  · refine Nat.lt_of_mul_lt_mul_right (a := magnification) ?_
    calc scaledUnits units exponent * magnification
        = units * magnification * 10 ^ (-exponent).toNat := hunscaled.symm
      _ < unitsPerOne * 10 ^ length * 10 ^ (-exponent).toNat :=
          Nat.mul_lt_mul_of_pos_right hupper (hpow _)
      _ = unitsPerOne * 10 ^ (exponent.toNat + (count + 1) + 324) := by
          rw [Nat.mul_assoc, ← Nat.pow_add, hscale]
      _ = 10 ^ (count + 1) * gridStep exponent * magnification := hsplit (count + 1)

/-! ### Points of a grid -/

/-- A point that is found is next to the magnitude and is read back as it. -/
theorem nearestPoint?_eq_some {units : Nat} {exponent : Int} {point : Nat}
    (hpoint : nearestPoint? units exponent = some point) :
    readsBack units exponent point = true ∧
      (point = scaledUnits units exponent / gridStep exponent ∨
        point = scaledUnits units exponent / gridStep exponent + 1) := by
  have hnearest : roundQuotient (scaledUnits units exponent) (gridStep exponent) =
        scaledUnits units exponent / gridStep exponent ∨
      roundQuotient (scaledUnits units exponent) (gridStep exponent) =
        scaledUnits units exponent / gridStep exponent + 1 := by
    have hlower := div_le_roundQuotient (scaledUnits units exponent) (gridStep exponent)
    have hupper := roundQuotient_le_succ (scaledUnits units exponent) (gridStep exponent)
    omega
  simp only [nearestPoint?] at hpoint
  generalize hother : (if roundQuotient (scaledUnits units exponent) (gridStep exponent) =
      scaledUnits units exponent / gridStep exponent then
    scaledUnits units exponent / gridStep exponent + 1
    else scaledUnits units exponent / gridStep exponent) = other at hpoint
  split at hpoint
  · next hreads =>
    obtain rfl := Option.some.inj hpoint
    exact ⟨hreads, hnearest⟩
  · split at hpoint
    · next hreads =>
      obtain rfl := Option.some.inj hpoint
      refine ⟨hreads, ?_⟩
      split at hother
      · exact .inr hother.symm
      · exact .inl hother.symm
    · cases hpoint

theorem lowerReach_le_upperReach (units : Nat) : lowerReach units ≤ upperReach units := by
  simp only [lowerReach, upperReach]
  split <;> omega

/-- What is read back lies within the reach of the magnitude. -/
theorem le_of_readsBack {units : Nat} {exponent : Int} {point : Nat}
    (hreads : readsBack units exponent point = true) :
    4 * point * gridStep exponent ≤ scaledUnits (4 * units + upperReach units) exponent := by
  rw [readsBack] at hreads
  split at hreads
  · simp only [Bool.and_eq_true, decide_eq_true_eq] at hreads
    exact hreads.2
  · simp only [Bool.and_eq_true, decide_eq_true_eq] at hreads
    exact hreads.2.le

/-- What lies strictly within the reach of the magnitude is read back. -/
theorem readsBack_of_lt {units : Nat} {exponent : Int} {point : Nat}
    (hlow : scaledUnits (4 * units - lowerReach units) exponent < 4 * point * gridStep exponent)
    (hhigh : 4 * point * gridStep exponent < scaledUnits (4 * units + upperReach units) exponent) :
    readsBack units exponent point = true := by
  rw [readsBack]
  split
  · simp [hlow.le, hhigh.le]
  · simp [hlow, hhigh]

/-- Rounding a quotient moves it by a half at most. -/
theorem roundQuotient_near (dividend : Nat) {divisor : Nat} (hdivisor : 0 < divisor) :
    2 * dividend ≤ 2 * (roundQuotient dividend divisor * divisor) + divisor ∧
      2 * (roundQuotient dividend divisor * divisor) ≤ 2 * dividend + divisor := by
  have hdivision := Nat.div_add_mod' dividend divisor
  have hremainder := Nat.mod_lt dividend hdivisor
  simp only [roundQuotient]
  split
  · next hup =>
    have hhalf : divisor ≤ 2 * (dividend % divisor) := by
      simp only [Bool.or_eq_true, Bool.and_eq_true, decide_eq_true_eq, beq_iff_eq] at hup
      omega
    rw [Nat.add_mul, Nat.one_mul]
    omega
  · next hdown =>
    have hhalf : 2 * (dividend % divisor) ≤ divisor := by
      simp only [Bool.or_eq_true, Bool.and_eq_true, decide_eq_true_eq, beq_iff_eq] at hdown
      omega
    omega

/-- A magnitude has fewer than sixteen digits in units of its reach. -/
theorem lt_lowerReach (units : Nat) : 2 * units < 10 ^ 16 * lowerReach units := by
  have hstep : 0 < Nat.pow 2 (excessBits units) := Nat.two_pow_pos _
  have hless := (Nat.div_lt_iff_lt_mul hstep).1 (div_pow_excessBits_lt units)
  simp only [lowerReach]
  generalize Nat.pow 2 (excessBits units) = step at *
  split
  · next hpower =>
    have hunits : units = 2 ^ 52 * step := hpower.2
    omega
  · have hbits : units < 2 ^ 53 * step := hless
    omega

/-- A grid with a step small enough has a point that is read back. -/
theorem isSome_nearestPoint? {units : Nat} {exponent : Int}
    (hstep : 10 ^ 16 * gridStep exponent ≤ scaledUnits units exponent) :
    (nearestPoint? units exponent).isSome := by
  have hscale : 0 < Nat.pow 10 (-exponent).toNat := Nat.pow_pos (by decide)
  have hpos := gridStep_pos exponent
  obtain ⟨hbelow, habove⟩ := roundQuotient_near (scaledUnits units exponent) hpos
  -- Half a step of the grid is less than the reach on either side.
  have hlower : 2 * gridStep exponent < scaledUnits (lowerReach units) exponent := by
    have hless := Nat.mul_lt_mul_of_pos_right (lt_lowerReach units) hscale
    rw [Nat.mul_assoc, Nat.mul_assoc] at hless
    change 2 * scaledUnits units exponent < 10 ^ 16 * scaledUnits (lowerReach units) exponent
      at hless
    omega
  have hupper : 2 * gridStep exponent < scaledUnits (upperReach units) exponent :=
    hlower.trans_le (scaledUnits_mono (lowerReach_le_upperReach units) exponent)
  have hreads : readsBack units exponent
      (roundQuotient (scaledUnits units exponent) (gridStep exponent)) = true := by
    refine readsBack_of_lt ?_ ?_
    · rw [scaledUnits_four_sub, Nat.mul_assoc]
      omega
    · rw [scaledUnits_four_add, Nat.mul_assoc]
      omega
  rw [nearestPoint?, if_pos hreads]
  rfl

/-! ### The shortest form -/

/-- A decimal that is found: a point of a grid, whose step is not too small, with seventeen digits
at most. -/
structure Found (units point : Nat) (exponent : Int) : Prop where
  nearest : nearestPoint? units exponent = some point
  pos : 0 < point
  le : point ≤ 10 ^ 17
  exponent_ge : -340 ≤ exponent

/-- On the grid of the exponent for a number of digits, up to seventeen, what is found has at most
this number of digits. -/
theorem found_of_nearestPoint? {units : Nat} (hunits : 0 < units) {count : Nat}
    (hcount : count ≤ 16) {point : Nat}
    (hpoint : nearestPoint? units (leadingExponent units + 1 - (count + 1 : Nat)) = some point) :
    Found units point (leadingExponent units + 1 - (count + 1 : Nat)) := by
  obtain ⟨hlower, hupper, hexponent⟩ := scaledUnits_bounds hunits count
  obtain ⟨-, hnext⟩ := nearestPoint?_eq_some hpoint
  have hstep := gridStep_pos (leadingExponent units + 1 - (count + 1 : Nat))
  have hone : 1 ≤ scaledUnits units (leadingExponent units + 1 - (count + 1 : Nat)) /
      gridStep (leadingExponent units + 1 - (count + 1 : Nat)) := by
    refine (Nat.le_div_iff_mul_le hstep).2 (le_trans ?_ hlower)
    exact Nat.mul_le_mul_right _ (Nat.pow_pos (by decide))
  have hless : scaledUnits units (leadingExponent units + 1 - (count + 1 : Nat)) /
      gridStep (leadingExponent units + 1 - (count + 1 : Nat)) < 10 ^ (count + 1) :=
    (Nat.div_lt_iff_lt_mul hstep).2 hupper
  have hdigits : 10 ^ (count + 1) ≤ 10 ^ 17 := Nat.pow_le_pow_right (by decide) (by omega)
  exact ⟨hpoint, by omega, by omega, by omega⟩

/-- Seventeen digits suffice. -/
theorem exists_shortestFrom_eq {units : Nat} (hunits : 0 < units) (more : Nat) {count : Nat}
    (hcount : count + more = 16) :
    ∃ point exponent, shortestFrom units (count + 1) (more + 1) = ⟨point, exponent⟩ ∧
      Found units point exponent := by
  induction more generalizing count with
  | zero =>
    obtain ⟨hlower, -, -⟩ := scaledUnits_bounds hunits 16
    obtain ⟨point, hpoint⟩ := Option.isSome_iff_exists.1 (isSome_nearestPoint? hlower)
    obtain rfl : count = 16 := hcount
    rw [shortestFrom, hpoint]
    exact ⟨point, _, rfl, found_of_nearestPoint? hunits le_rfl hpoint⟩
  | succ more ih =>
    rw [shortestFrom]
    cases hpoint : nearestPoint? units (leadingExponent units + 1 - (count + 1 : Nat)) with
    | some point => exact ⟨point, _, rfl, found_of_nearestPoint? hunits (by omega) hpoint⟩
    | none => exact ih (by omega)

/-- The zeros at the end of the digits are powers of ten. -/
theorem exists_dropZeros_eq (digits : Nat) (exponent : Int) (more : Nat) :
    ∃ dropped : Nat, digits = (dropZeros digits exponent more).digits * 10 ^ dropped ∧
      (dropZeros digits exponent more).exponent = exponent + dropped := by
  induction more generalizing digits exponent with
  | zero => exact ⟨0, by rw [dropZeros]; simp⟩
  | succ more ih =>
    rw [dropZeros]
    split
    · next hzero =>
      obtain ⟨dropped, hdigits, hexponent⟩ := ih (digits / 10) (exponent + 1)
      refine ⟨dropped + 1, ?_, by omega⟩
      rw [pow_succ, ← mul_assoc, ← hdigits]
      omega
    · exact ⟨0, by simp⟩

/-! ### Finite magnitudes -/

/-- Four times the number of units that lies halfway between the greatest finite magnitude and the
next one. -/
def overflow : Nat :=
  4 * finiteEnd - 2 * Nat.pow 2 2045

/-- Excess bits of the greatest finite magnitudes. -/
@[irreducible] def greatestExcess : Nat := 2045

theorem excessBits_le (magnitude : Magnitude) (hfinite : magnitude.isFinite = true) :
    excessBits magnitude.units ≤ greatestExcess := by
  have hless : magnitude.units < finiteEnd := of_decide_eq_true hfinite
  have hgreatest : excessBits (finiteEnd - 1) = greatestExcess := by decide +kernel
  exact hgreatest ▸ excessBits_mono (Nat.le_sub_one_of_lt hless)

/-- The 53 bits of a magnitude in front of its excess bits. -/
def significand (magnitude : Magnitude) : Nat :=
  magnitude.units / Nat.pow 2 (excessBits magnitude.units)

theorem significand_mul (magnitude : Magnitude) :
    magnitude.significand * Nat.pow 2 (excessBits magnitude.units) = magnitude.units :=
  Nat.div_mul_cancel magnitude.exact

/-- Four times the end of what is read back as a magnitude, by its bits. -/
theorem four_mul_add_upperReach (magnitude : Magnitude) :
    4 * magnitude.units + upperReach magnitude.units =
      (4 * magnitude.significand + 2) * Nat.pow 2 (excessBits magnitude.units) := by
  rw [Nat.add_mul, Nat.mul_assoc, significand_mul]
  rfl

theorem overflow_eq : overflow = (4 * (2 ^ 53 - 1) + 2) * Nat.pow 2 greatestExcess := by
  decide +kernel

/-- What is read back as a finite magnitude is no more than halfway past the greatest one. -/
theorem four_mul_add_upperReach_le (magnitude : Magnitude) (hfinite : magnitude.isFinite = true) :
    4 * magnitude.units + upperReach magnitude.units ≤ overflow := by
  have hless : magnitude.significand < 2 ^ 53 := div_pow_excessBits_lt magnitude.units
  rw [four_mul_add_upperReach, overflow_eq]
  exact Nat.mul_le_mul (by omega)
    (Nat.pow_le_pow_right (by decide) (magnitude.excessBits_le hfinite))

/-- The greatest decimal of seventeen digits that is read back as the greatest finite magnitude,
with its power of ten. -/
def pastGreatest : Nat × Nat := (17976931348623158, 292)

/-- It is no shortest form, since a decimal with as many digits is nearer. -/
theorem nearestPoint?_ne_pastGreatest (magnitude : Magnitude)
    (hfinite : magnitude.isFinite = true) :
    nearestPoint? magnitude.units pastGreatest.2 ≠ some pastGreatest.1 := by
  intro hpoint
  have hless : magnitude.significand < 2 ^ 53 := div_pow_excessBits_lt magnitude.units
  have hreach := le_of_readsBack (nearestPoint?_eq_some hpoint).1
  rw [scaledUnits_natCast, four_mul_add_upperReach] at hreach
  have hpast : (4 * (2 ^ 53 - 2) + 2) * Nat.pow 2 greatestExcess <
      4 * pastGreatest.1 * gridStep pastGreatest.2 := by decide +kernel
  have hexcess : excessBits magnitude.units = greatestExcess := by
    refine Nat.le_antisymm (magnitude.excessBits_le hfinite) (Nat.le_of_not_lt fun hbelow ↦ ?_)
    have hdouble : 2 * Nat.pow 2 (excessBits magnitude.units) ≤ Nat.pow 2 greatestExcess := by
      have hpow : 2 ^ (excessBits magnitude.units + 1) ≤ 2 ^ greatestExcess :=
        Nat.pow_le_pow_right (by decide) hbelow
      rw [pow_succ, mul_comm] at hpow
      exact hpow
    have hsmall : (4 * magnitude.significand + 2) * Nat.pow 2 (excessBits magnitude.units) ≤
        (4 * (2 ^ 53 - 2) + 2) * (2 * Nat.pow 2 (excessBits magnitude.units)) := by
      rw [← mul_assoc]
      exact Nat.mul_le_mul_right _ (by omega)
    exact absurd (hpast.trans_le (hreach.trans hsmall))
      (Nat.not_lt.2 (Nat.mul_le_mul_left _ hdouble))
  have hsignificand : magnitude.significand = 2 ^ 53 - 1 := by
    rw [hexcess] at hreach
    have hbits := Nat.lt_of_mul_lt_mul_right (hpast.trans_le hreach)
    omega
  have hunits := magnitude.significand_mul
  rw [hexcess, hsignificand] at hunits
  have hnearest : nearestPoint? ((2 ^ 53 - 1) * Nat.pow 2 greatestExcess) pastGreatest.2 =
      some 17976931348623157 := by decide +kernel
  rw [← hunits, hnearest] at hpoint
  exact absurd (Option.some.inj hpoint) (by decide)

/-- A decimal with seventeen digits at most, and not past the finite magnitudes. -/
structure Short (form : Scientific) : Prop where
  pos : 0 < form.digits
  digits_le : form.digits ≤ 10 ^ 17
  exponent_ge : -340 ≤ form.exponent
  within (exponent : Nat) (hexponent : form.exponent = exponent) :
    4 * form.digits * gridStep exponent ≤ overflow
  ne_pastGreatest (exponent : Nat) (hexponent : form.exponent = exponent) :
    (form.digits, exponent) ≠ pastGreatest

/-- A decimal stays within the finite magnitudes when zeros at its end are dropped. -/
theorem Found.within {magnitude : Magnitude} (hfinite : magnitude.isFinite = true) {point : Nat}
    {exponent : Int} (hfound : Found magnitude.units point exponent) {digits dropped : Nat}
    (hdigits : point = digits * 10 ^ dropped) {left : Nat} (hleft : exponent + dropped = left) :
    4 * digits * gridStep left ≤ overflow := by
  have hreach := le_of_readsBack (nearestPoint?_eq_some hfound.nearest).1
  have hoverflow := hreach.trans
    (scaledUnits_mono (magnitude.four_mul_add_upperReach_le hfinite) exponent)
  have hpowers : dropped + exponent.toNat = left + (-exponent).toNat := by omega
  refine Nat.le_of_mul_le_mul_right (c := 10 ^ (-exponent).toNat) ?_ (Nat.pow_pos (by decide))
  calc 4 * digits * gridStep left * 10 ^ (-exponent).toNat
      = 4 * digits * unitsPerOne * 10 ^ (left + (-exponent).toNat) := by
        rw [gridStep, Int.toNat_natCast, Nat.pow_eq]
        ring
    _ = 4 * point * gridStep exponent := by
        rw [← hpowers, hdigits, gridStep, Nat.pow_eq]
        ring
    _ ≤ overflow * 10 ^ (-exponent).toNat := hoverflow

/-- The shortest form of a finite magnitude other than zero is short. -/
theorem short_shortest (magnitude : Magnitude) (hfinite : magnitude.isFinite = true)
    (hpos : 0 < magnitude.units) : Short magnitude.shortest := by
  obtain ⟨point, exponent, hform, hfound⟩ := exists_shortestFrom_eq hpos 16 (zero_add 16)
  have hshortest : magnitude.shortest = dropZeros point exponent 17 := by
    rw [shortest, if_neg hpos.ne', hform]
  obtain ⟨dropped, hdigits, hexponent⟩ := exists_dropZeros_eq point exponent 17
  rw [hshortest]
  generalize dropZeros point exponent 17 = form at hdigits hexponent
  have hpow : 0 < 10 ^ dropped := Nat.pow_pos (by decide)
  have hle : form.digits ≤ point := hdigits ▸ Nat.le_mul_of_pos_right _ hpow
  refine ⟨?_, hle.trans hfound.le, ?_, fun left hleft ↦ ?_, fun left hleft heq ↦ ?_⟩
  · exact Nat.pos_of_mul_pos_right (hdigits ▸ hfound.pos)
  · have hge := hfound.exponent_ge
    omega
  · exact hfound.within hfinite hdigits (hexponent ▸ hleft)
  · have hpast : form.digits = pastGreatest.1 := congrArg Prod.fst heq
    have hpower : left = pastGreatest.2 := congrArg Prod.snd heq
    rcases Nat.eq_zero_or_pos dropped with rfl | hdropped
    · have hpoint : point = pastGreatest.1 := by omega
      have hgrid : exponent = pastGreatest.2 := by omega
      exact magnitude.nearestPoint?_ne_pastGreatest hfinite (hpoint ▸ hgrid ▸ hfound.nearest)
    · -- With a zero behind it, the decimal has too many digits.
      have hten : 10 ^ 1 ≤ 10 ^ dropped := Nat.pow_le_pow_right (by decide) hdropped
      have hmany : pastGreatest.1 * 10 ^ 1 ≤ point := by
        rw [hdigits, hpast]
        exact Nat.mul_le_mul_left _ hten
      exact absurd (hmany.trans hfound.le) (by decide)

end Lexeme.Decimal.Magnitude
