import Lexeme.Proofs.Numerals
import Lexeme.Proofs.Shortest

/-!
# Written fractions

A binary fraction is written by its shortest decimal form, which JSON takes for a number
(`Json.Numeral.wellFormed_ofBinary64`). It is read by gathering its digits and scaling their number
by a power of ten. A negative power makes nothing greater
(`Json.Numeral.exists_scale?_eq_of_neg`), and another power leads past the finite magnitudes only
from a decimal that is itself past them or is no shortest form (`Json.Numeral.isFinite_mul`). So
every written fraction is read as some fraction (`Json.Numeral.exists_toBinary64?_ofBinary64`).
-/

set_option autoImplicit false
set_option relaxedAutoImplicit false

namespace Lexeme.Json

open Decimal (Binary64 Magnitude Scientific digits)

namespace Numeral

/-! ### Scaling -/

theorem unitsPerOne_le_ofNat {n : Nat} (hn : 0 < n) :
    Magnitude.unitsPerOne ≤ (Magnitude.ofNat n).units := by
  have hone : (Magnitude.ofNat 1).units = Magnitude.unitsPerOne := by decide +kernel
  exact hone ▸ Magnitude.ofNat_mono hn

/-- Negative powers of ten make nothing greater. -/
theorem exists_scale?_eq_of_neg (value : Magnitude) (exponent : Int) (hneg : exponent < 0) :
    ∃ scaled, scale? value exponent = some scaled ∧ scaled.units ≤ value.units := by
  have hpow (n : Nat) : 0 < Nat.pow 10 n := Nat.pow_pos (by decide)
  have hdiv (value : Magnitude) (n : Nat) :
      (value.div (.ofNat (Nat.pow 10 n))).units ≤ value.units :=
    Magnitude.div_le value (unitsPerOne_le_ofNat (hpow n))
  fun_induction scale? value exponent with
  | case1 => omega
  | case2 => omega
  | case3 => omega
  | case4 => omega
  | case5 value exponent => exact ⟨_, rfl, hdiv value _⟩
  | case6 value => exact ⟨value, rfl, le_rfl⟩
  | case7 value exponent _ hless _ ih =>
    obtain ⟨scaled, hscaled, hle⟩ := ih (by omega)
    exact ⟨scaled, hscaled, hle.trans (hdiv value _)⟩

/-- The greatest number of digits with a power of ten that is not past the finite magnitudes. -/
def greatestDigits (exponent : Nat) : Nat :=
  if exponent = Magnitude.pastGreatest.2 then Magnitude.pastGreatest.1 - 1
  else Magnitude.overflow / (4 * Magnitude.gridStep exponent)

/-- One product for each power of ten bounds all others with this power. -/
theorem isFinite_greatestDigits : ∀ more < 17,
    ((Magnitude.ofNat (greatestDigits (292 + more))).mul
      (.ofNat (Nat.pow 10 (292 + more)))).isFinite = true := by
  decide +kernel

theorem pow_ten_mono {a b : Nat} (hab : a ≤ b) : Nat.pow 10 a ≤ Nat.pow 10 b :=
  Nat.pow_le_pow_right (by decide) hab

theorem gridStep_mono {a b : Nat} (hab : a ≤ b) : Magnitude.gridStep a ≤ Magnitude.gridStep b :=
  Nat.mul_le_mul_left _ (pow_ten_mono hab)

theorem le_greatestPower {form : Scientific} (hshort : Magnitude.Short form) {exponent : Nat}
    (hexponent : form.exponent = exponent) : exponent ≤ greatestPower := by
  by_contra hgreat
  have hpast : Magnitude.overflow < 4 * Magnitude.gridStep (greatestPower + 1 : Nat) := by
    decide +kernel
  have hstep : Magnitude.gridStep (greatestPower + 1 : Nat) ≤ Magnitude.gridStep exponent :=
    gridStep_mono (Nat.lt_of_not_le hgreat)
  have hdigits : 4 * 1 * Magnitude.gridStep exponent ≤
      4 * form.digits * Magnitude.gridStep exponent :=
    Nat.mul_le_mul_right _ (Nat.mul_le_mul_left _ hshort.pos)
  have hwithin := hshort.within exponent hexponent
  omega

theorem le_greatestDigits {form : Scientific} (hshort : Magnitude.Short form) {exponent : Nat}
    (hexponent : form.exponent = exponent) : form.digits ≤ greatestDigits exponent := by
  have hbound : form.digits ≤ Magnitude.overflow / (4 * Magnitude.gridStep exponent) := by
    refine (Nat.le_div_iff_mul_le (Nat.mul_pos (by decide) (Magnitude.gridStep_pos _))).2 ?_
    have hwithin := hshort.within exponent hexponent
    rwa [Nat.mul_comm 4, Nat.mul_assoc] at hwithin
  rw [greatestDigits]
  split
  · next hpower =>
    have hne : form.digits ≠ Magnitude.pastGreatest.1 := fun heq ↦
      hshort.ne_pastGreatest exponent hexponent (Prod.ext heq hpower)
    have hpast : Magnitude.overflow / (4 * Magnitude.gridStep (Magnitude.pastGreatest.2 : Nat)) =
        Magnitude.pastGreatest.1 := by decide +kernel
    rw [hpower, hpast] at hbound
    omega
  · exact hbound

theorem isFinite_mul_of_le {a b m n : Nat} (hab : a ≤ b) (hmn : m ≤ n)
    (hfinite : ((Magnitude.ofNat b).mul (.ofNat (Nat.pow 10 n))).isFinite = true) :
    ((Magnitude.ofNat a).mul (.ofNat (Nat.pow 10 m))).isFinite = true :=
  Magnitude.isFinite_of_le
    (Magnitude.mul_mono (Magnitude.ofNat_mono hab) (Magnitude.ofNat_mono (pow_ten_mono hmn)))
    hfinite

/-- A decimal that is not past the finite magnitudes is scaled to a finite one. -/
theorem isFinite_mul {form : Scientific} (hshort : Magnitude.Short form) {exponent : Nat}
    (hexponent : form.exponent = exponent) :
    ((Magnitude.ofNat form.digits).mul (.ofNat (Nat.pow 10 exponent))).isFinite = true := by
  rcases Nat.lt_or_ge exponent 292 with hsmall | hgreat
  · exact isFinite_mul_of_le hshort.digits_le (Nat.le_of_lt_succ hsmall) (by decide +kernel)
  · have hle : exponent ≤ 308 := le_greatestPower hshort hexponent
    obtain ⟨more, rfl⟩ := Nat.exists_eq_add_of_le hgreat
    exact isFinite_mul_of_le (le_greatestDigits hshort hexponent) le_rfl
      (isFinite_greatestDigits more (by omega))

/-! ### Digits -/

/-- Digits are gathered as far as they go, if their value stays below the end of counters. -/
theorem gather_eq (value : Nat) (cs : List Char)
    (hvalue : Nat.ofDigitChars 10 cs value < counterEnd) :
    gather value cs = (Nat.ofDigitChars 10 cs value, []) := by
  induction cs generalizing value with
  | nil => rfl
  | cons c cs ih =>
    rw [Nat.ofDigitChars_cons, Nat.mul_comm] at hvalue ⊢
    have hnext : value * 10 + (c.toNat - '0'.toNat) < counterEnd :=
      (Text.le_ofDigitChars cs _).trans_lt hvalue
    rw [gather]
    simp only [if_pos hnext]
    exact ih _ hvalue

/-- The number that all digits of a numeral stand for, without the point. -/
def value (numeral : Numeral) : Nat :=
  Nat.ofDigitChars 10 (numeral.whole ++ numeral.fraction) 0

/-- The power of ten that this number is multiplied by. -/
def scale (numeral : Numeral) : Int :=
  (numeral.exponent.map Exponent.value).getD 0 - numeral.fraction.length

/-- A numeral whose digits fit into a counter is read as this number times its power of ten. -/
theorem toBinary64?_eq (numeral : Numeral) (hvalue : numeral.value < counterEnd) :
    numeral.toBinary64? =
      (scale? (.ofNat numeral.value) numeral.scale).bind (Binary64.make? numeral.negative) := by
  rw [value, Nat.ofDigitChars_append] at hvalue ⊢
  have hwhole := gather_eq 0 numeral.whole
    ((Text.le_ofDigitChars numeral.fraction _).trans_lt hvalue)
  have hfraction := gather_eq _ numeral.fraction hvalue
  have hscale : ((0 : Nat) : Int) - (numeral.fraction.length - (0 : Nat)) +
      (numeral.exponent.map Exponent.value).getD 0 = numeral.scale := by
    rw [scale]
    omega
  rw [toBinary64?, hwhole]
  simp only [hfraction, List.length_nil, hscale]
  rfl

theorem make?_eq (negative : Bool) {magnitude : Magnitude} (hfinite : magnitude.isFinite = true) :
    Binary64.make? negative magnitude = some ⟨negative, magnitude, hfinite⟩ :=
  dif_pos hfinite

/-- Digits with a negative power of ten are read as a fraction. -/
theorem exists_toBinary64?_of_neg (numeral : Numeral) (hvalue : numeral.value ≤ 10 ^ 17)
    (hneg : numeral.scale < 0) : ∃ x, numeral.toBinary64? = some x := by
  have hcounter : numeral.value < counterEnd := hvalue.trans_lt (by decide)
  have hgreatest : (Magnitude.ofNat (10 ^ 17)).isFinite = true := by decide +kernel
  obtain ⟨scaled, hscaled, hle⟩ := exists_scale?_eq_of_neg (.ofNat numeral.value) _ hneg
  have hfinite : scaled.isFinite = true :=
    Magnitude.isFinite_of_le (hle.trans (Magnitude.ofNat_mono hvalue)) hgreatest
  rw [toBinary64?_eq numeral hcounter, hscaled, Option.bind_some, make?_eq _ hfinite]
  exact ⟨_, rfl⟩

/-- The digits and the power of ten of a short form are read as a fraction. -/
theorem exists_toBinary64?_of_short {form : Scientific} (hshort : Magnitude.Short form)
    (numeral : Numeral) (hvalue : numeral.value = form.digits)
    (hscale : numeral.scale = form.exponent) : ∃ x, numeral.toBinary64? = some x := by
  have hle : numeral.value ≤ 10 ^ 17 := hvalue ▸ hshort.digits_le
  rcases lt_or_ge numeral.scale 0 with hneg | hnonneg
  · exact exists_toBinary64?_of_neg numeral hle hneg
  · obtain ⟨exponent, hexponent⟩ := Int.eq_ofNat_of_zero_le hnonneg
    have hform : form.exponent = exponent := hscale.symm.trans hexponent
    have hcounter : numeral.value < counterEnd := hle.trans_lt (by decide)
    have hfinite := isFinite_mul hshort hform
    have hscaled : scale? (.ofNat form.digits) exponent =
        some ((Magnitude.ofNat form.digits).mul (.ofNat (Nat.pow 10 exponent))) := by
      rw [scale?, if_pos (Int.natCast_nonneg _),
        if_pos (Int.ofNat_le.2 (le_greatestPower hshort hform))]
      exact if_pos hfinite
    rw [toBinary64?_eq numeral hcounter, hvalue, hexponent, hscaled, Option.bind_some,
      make?_eq _ hfinite]
    exact ⟨_, rfl⟩

/-! ### Written decimals -/

theorem value_ofInt {n : Int} (hsize : n.natAbs < Exponent.greatestSize) :
    (Exponent.ofInt n).value = n := by
  have hdigits := Text.numberBelow?_eq Exponent.greatestSize (Decimal.digits n.natAbs)
    (fun _ ↦ Decimal.isDigit_of_mem_digits) (by rwa [Decimal.ofDigitChars_digits])
  rw [Decimal.ofDigitChars_digits] at hdigits
  rw [Exponent.value, Exponent.ofInt, hdigits]
  simp only [Option.getD_some, decide_eq_true_eq]
  split <;> omega

theorem wellFormed_ofInt (n : Int) : (Exponent.ofInt n).WellFormed where
  ne_nil := Nat.toDigits_ne_nil
  digits _ hc := Decimal.isDigit_of_mem_digits hc

/-- The digits of a number other than zero do not start with a zero. -/
theorem exists_digits_eq_cons {n : Nat} (hn : 0 < n) :
    ∃ c cs, digits n = c :: cs ∧ c ≠ '0' := by
  obtain ⟨c, cs, hdigits⟩ := List.exists_cons_of_ne_nil (Nat.toDigits_ne_nil (n := n) (b := 10))
  refine ⟨c, cs, hdigits, ?_⟩
  rintro rfl
  cases cs with
  | nil =>
    have hvalue := Decimal.ofDigitChars_digits n
    rw [digits, hdigits] at hvalue
    exact hn.ne hvalue
  | cons d cs => exact Decimal.digits_ne_zero_cons n d cs hdigits

theorem isDigit_of_mem_zeros {n : Nat} {c : Char} (hc : c ∈ List.replicate n '0') : c.isDigit := by
  rw [List.eq_of_mem_replicate hc]
  decide

/-- The four ways to write a decimal: zeros behind its digits, a point between them, zeros in front
of them, or a power of ten. -/
theorem ofScientific_cases (negative : Bool) (form : Scientific) :
    (∃ zeros : Nat, form.exponent = zeros ∧ (digits form.digits).length + zeros ≤ 16 ∧
      ofScientific negative form =
        ⟨negative, digits form.digits ++ List.replicate zeros '0', ['0'], none⟩) ∨
    (∃ point : Nat, 0 < point ∧ (point : Int) = (digits form.digits).length + form.exponent ∧
      form.exponent < 0 ∧ ofScientific negative form =
        ⟨negative, (digits form.digits).take point, (digits form.digits).drop point, none⟩) ∨
    (∃ zeros : Nat, -(zeros : Int) = (digits form.digits).length + form.exponent ∧
      ofScientific negative form =
        ⟨negative, ['0'], List.replicate zeros '0' ++ digits form.digits, none⟩) ∨
    ofScientific negative form =
      ⟨negative, (digits form.digits).take 1, (digits form.digits).drop 1,
        some (.ofInt ((digits form.digits).length + form.exponent - 1))⟩ := by
  rw [ofScientific]
  split
  · next hplain => exact .inl ⟨form.exponent.toNat, by omega, by omega, rfl⟩
  · split
    · next hpoint =>
      refine .inr (.inl ⟨((digits form.digits).length + form.exponent).toNat, ?_, ?_, ?_, rfl⟩)
      all_goals omega
    · split
      · next hzeros =>
        exact .inr (.inr (.inl ⟨(-((digits form.digits).length + form.exponent)).toNat,
          by omega, rfl⟩))
      · exact .inr (.inr (.inr rfl))

theorem wellFormed_ofShort (negative : Bool) {form : Scientific} (hshort : Magnitude.Short form) :
    (ofScientific negative form).WellFormed := by
  have hdigit {c : Char} (hc : c ∈ digits form.digits) : c.isDigit :=
    Decimal.isDigit_of_mem_digits hc
  obtain ⟨first, others, hdigits, hfirst⟩ := exists_digits_eq_cons hshort.pos
  obtain ⟨zeros, -, -, hform⟩ | ⟨point, hpoint, -, -, hform⟩ | ⟨zeros, -, hform⟩ | hform :=
    ofScientific_cases negative form
  · rw [hform]
    refine ⟨by simp [hdigits], fun c hc ↦ ?_, fun c cs hzero ↦ ?_, by simp, nofun⟩
    · exact (List.mem_append.1 hc).elim hdigit isDigit_of_mem_zeros
    · rw [hdigits] at hzero
      exact hfirst (List.cons.inj hzero).1
  · rw [hform]
    obtain ⟨point, rfl⟩ := Nat.exists_eq_add_of_lt hpoint
    refine ⟨by simp [hdigits], fun c hc ↦ hdigit (List.mem_of_mem_take hc), fun c cs hzero ↦ ?_,
      fun c hc ↦ hdigit (List.mem_of_mem_drop hc), nofun⟩
    rw [hdigits, List.take_succ_cons] at hzero
    exact hfirst (List.cons.inj hzero).1
  · rw [hform]
    refine ⟨List.cons_ne_nil _ _, by simp, by simp, fun c hc ↦ ?_, nofun⟩
    exact (List.mem_append.1 hc).elim isDigit_of_mem_zeros hdigit
  · rw [hform]
    refine ⟨by simp [hdigits], fun c hc ↦ hdigit (List.mem_of_mem_take hc), ?_,
      fun c hc ↦ hdigit (List.mem_of_mem_drop hc), ?_⟩
    · simp [hdigits]
    · rintro exponent hexponent
      obtain rfl := Option.some.inj hexponent
      exact wellFormed_ofInt _

/-- The digits of a short form are not many, and its power of ten is not far from zero. -/
theorem bounds_of_short {form : Scientific} (hshort : Magnitude.Short form) :
    (digits form.digits).length ≤ 18 ∧ form.exponent ≤ greatestPower := by
  constructor
  · exact (Nat.length_toDigits_le_iff (by decide) (by decide)).2
      (hshort.digits_le.trans_lt (by decide))
  · rcases lt_or_ge form.exponent 0 with hneg | hnonneg
    · exact hneg.le.trans (Int.natCast_nonneg _)
    · obtain ⟨exponent, hexponent⟩ := Int.eq_ofNat_of_zero_le hnonneg
      rw [hexponent]
      exact Int.ofNat_le.2 (le_greatestPower hshort hexponent)

/-- A short form is read back as some fraction. -/
theorem exists_toBinary64?_ofShort (negative : Bool) {form : Scientific}
    (hshort : Magnitude.Short form) :
    ∃ x, (ofScientific negative form).toBinary64? = some x := by
  have hvalue := Decimal.ofDigitChars_digits form.digits
  obtain ⟨zeros, -, hlength, hform⟩ | ⟨point, -, hplace, hneg, hform⟩ | ⟨zeros, hplace, hform⟩ |
    hform := ofScientific_cases negative form
  · -- The zero behind the point makes the power of ten negative.
    rw [hform]
    refine exists_toBinary64?_of_neg _ ?_ (by rw [scale]; simp)
    have hless := Text.ofDigitChars_lt_pow (digits form.digits ++ List.replicate zeros '0' ++ ['0'])
      (by
        simp only [List.mem_append, List.mem_singleton]
        rintro c ((hc | hc) | rfl)
        · exact Decimal.isDigit_of_mem_digits hc
        · exact isDigit_of_mem_zeros hc
        · decide)
    refine hless.le.trans (Nat.pow_le_pow_right (by decide) ?_)
    simp only [List.length_append, List.length_replicate, List.length_singleton]
    omega
  · rw [hform]
    refine exists_toBinary64?_of_short hshort _ ?_ ?_
    · rw [value, List.take_append_drop, hvalue]
    · simp only [scale, List.length_drop, Option.map_none, Option.getD_none]
      omega
  · rw [hform]
    refine exists_toBinary64?_of_short hshort _ ?_ ?_
    · rw [value, List.singleton_append, Nat.ofDigitChars_cons, Nat.ofDigitChars_append,
        Nat.ofDigitChars_replicate_zero]
      simpa using hvalue
    · simp only [scale, List.length_append, List.length_replicate, Option.map_none,
        Option.getD_none]
      omega
  · rw [hform]
    obtain ⟨hlength, hgreatest⟩ := bounds_of_short hshort
    have hsmallest := hshort.exponent_ge
    have hpos : 0 < (digits form.digits).length := Nat.length_toDigits_pos
    have hsize : ((digits form.digits).length + form.exponent - 1).natAbs <
        Exponent.greatestSize := by
      have hthousand : 1000 < Exponent.greatestSize := by decide
      have hpower : (greatestPower : Int) = 308 := rfl
      omega
    refine exists_toBinary64?_of_short hshort _ ?_ ?_
    · rw [value, List.take_append_drop, hvalue]
    · simp only [scale, List.length_drop, Option.map_some, Option.getD_some, value_ofInt hsize]
      omega

/-! ### Written fractions -/

/-- The shortest form of zero is written with a point and another zero. -/
theorem ofBinary64_of_units_eq_zero {x : Binary64} (hzero : x.magnitude.units = 0) :
    ofBinary64 x = ⟨x.negative, ['0'], ['0'], none⟩ := by
  rw [ofBinary64, Magnitude.shortest, if_pos hzero]
  rfl

/-- A binary fraction is written as JSON writes numbers. -/
theorem wellFormed_ofBinary64 (x : Binary64) : (ofBinary64 x).WellFormed := by
  rcases Nat.eq_zero_or_pos x.magnitude.units with hzero | hpos
  · rw [ofBinary64_of_units_eq_zero hzero]
    exact ⟨by simp, by simp, by simp, by simp, nofun⟩
  · exact wellFormed_ofShort x.negative (Magnitude.short_shortest x.magnitude x.finite hpos)

/-- A binary fraction that was written is read back as some binary fraction. -/
theorem exists_toBinary64?_ofBinary64 (x : Binary64) :
    ∃ y, (ofBinary64 x).toBinary64? = some y := by
  rcases Nat.eq_zero_or_pos x.magnitude.units with hzero | hpos
  · rw [ofBinary64_of_units_eq_zero hzero]
    refine exists_toBinary64?_of_neg _ ?_ (by rw [scale]; simp)
    rw [value]
    simp [Nat.ofDigitChars_cons]
  · exact exists_toBinary64?_ofShort x.negative
      (Magnitude.short_shortest x.magnitude x.finite hpos)

end Numeral

end Lexeme.Json
