import Lexeme.Json.Reader
import Mathlib.Algebra.Group.Nat.Defs

/-!
# Numerals and their text

A run of decimal digits is read as the number it stands for, as long as this is small enough
(`Text.numberBelow?_eq`), and the digits of a number stand for it. A written number is what JSON
takes for a number if its digits are digits, none are missing, and no zero stands in front of others
(`Json.Numeral.WellFormed`). Such a number is read back from its text, provided that the text does
not go on as a number (`Json.readNumeral_text`).
-/

set_option autoImplicit false
set_option relaxedAutoImplicit false

namespace Lexeme

/-! ### Decimal digits -/

namespace Text

theorem hexValue?_of_isDigit {c : Char} (hdigit : c.isDigit) :
    hexValue? c = some (c.toNat - '0'.toNat) := by
  have hrange : '0' ≤ c ∧ c ≤ '9' := by
    simpa [Char.isDigit, Char.le_def] using hdigit
  rw [hexValue?, if_pos hrange]

/-- Further digits do not make a number smaller. -/
theorem le_ofDigitChars (digits : List Char) (value : Nat) :
    value ≤ Nat.ofDigitChars 10 digits value := by
  rw [Nat.ofDigitChars_eq_ofDigitChars_zero]
  have hpow : 0 < 10 ^ digits.length := Nat.pow_pos (by decide)
  exact Nat.le_trans (Nat.le_mul_of_pos_left value hpow) (Nat.le_add_right _ _)

theorem ofDigitChars_lt_pow (digits : List Char) (hdigits : ∀ c ∈ digits, c.isDigit) :
    Nat.ofDigitChars 10 digits 0 < 10 ^ digits.length := by
  induction digits with
  | nil => decide
  | cons c digits ih =>
    have hrest := ih fun d hd ↦ hdigits d (List.mem_cons_of_mem _ hd)
    have hc : c.toNat - '0'.toNat ≤ 9 := by
      have hrange := hdigits c List.mem_cons_self
      simp only [Char.isDigit, Bool.and_eq_true, decide_eq_true_eq] at hrange
      have hle : c.toNat ≤ '0'.toNat + 9 := hrange.2
      omega
    have hscaled : 10 ^ digits.length * (c.toNat - '0'.toNat) ≤ 10 ^ digits.length * 9 :=
      Nat.mul_le_mul_left _ hc
    rw [Nat.ofDigitChars_cons, Nat.ofDigitChars_eq_ofDigitChars_zero, List.length_cons,
      Nat.pow_succ, Nat.mul_zero, Nat.zero_add]
    omega

/-- Digits are read as the number they stand for, if it is below the end. -/
theorem numberBelow?_eq (finish : Nat) (digits : List Char) (hdigits : ∀ c ∈ digits, c.isDigit)
    (hfinish : Nat.ofDigitChars 10 digits 0 < finish) :
    numberBelow? 10 finish digits = some (Nat.ofDigitChars 10 digits 0) := by
  suffices hfrom : ∀ value, Nat.ofDigitChars 10 digits value < finish →
      digits.foldlM (fun value c ↦ do
        let next := value * 10 + (← hexValue? c)
        if next < finish then some next else none) value =
          some (Nat.ofDigitChars 10 digits value) from hfrom 0 hfinish
  clear hfinish
  induction digits with
  | nil => exact fun value _ ↦ rfl
  | cons c digits ih =>
    intro value hvalue
    rw [Nat.ofDigitChars_cons, Nat.mul_comm] at hvalue
    have hnext : value * 10 + (c.toNat - '0'.toNat) < finish :=
      Nat.lt_of_le_of_lt (le_ofDigitChars digits _) hvalue
    rw [List.foldlM_cons, hexValue?_of_isDigit (hdigits c List.mem_cons_self),
      Nat.ofDigitChars_cons, Nat.mul_comm 10]
    simp only [Option.bind_eq_bind, Option.bind_some, if_pos hnext]
    exact ih (fun d hd ↦ hdigits d (List.mem_cons_of_mem _ hd)) _ hvalue

end Text

namespace Decimal

theorem isDigit_of_mem_digits {n : Nat} {c : Char} (hc : c ∈ digits n) : c.isDigit :=
  Nat.isDigit_of_mem_toDigits (by decide) (by decide) hc

theorem ofDigitChars_digits (n : Nat) : Nat.ofDigitChars 10 (digits n) 0 = n :=
  Nat.ofDigitChars_ten_toDigits

/-- No zero stands in front of other digits. -/
theorem digits_ne_zero_cons (n : Nat) (c : Char) (cs : List Char) : digits n ≠ '0' :: c :: cs := by
  intro hdigits
  have hvalue := ofDigitChars_digits n
  rw [hdigits, Nat.ofDigitChars_cons] at hvalue
  have hless := Text.ofDigitChars_lt_pow (c :: cs) fun d hd ↦
    isDigit_of_mem_digits (n := n) (hdigits ▸ List.mem_cons_of_mem _ hd)
  have hlength : (digits n).length ≤ (c :: cs).length :=
    (Nat.length_toDigits_le_iff (by decide) (Nat.succ_pos _)).2 (hvalue ▸ hless)
  rw [hdigits] at hlength
  exact Nat.not_succ_le_self _ hlength

end Decimal

namespace Json

/-! ### Written numbers -/

/-- A power of ten has digits. -/
structure Exponent.WellFormed (exponent : Exponent) : Prop where
  ne_nil : exponent.digits ≠ []
  digits : ∀ c ∈ exponent.digits, c.isDigit

/-- The number is written as JSON writes numbers. -/
structure Numeral.WellFormed (numeral : Numeral) : Prop where
  ne_nil : numeral.whole ≠ []
  whole : ∀ c ∈ numeral.whole, c.isDigit
  ne_zero_cons : ∀ c cs, numeral.whole ≠ '0' :: c :: cs
  fraction : ∀ c ∈ numeral.fraction, c.isDigit
  exponent : ∀ exponent ∈ numeral.exponent, exponent.WellFormed

/-- The text does not go on as a number. -/
def EndsNumeral (rest : List Char) : Prop :=
  ∀ c ∈ rest.head?, c.isDigit = false ∧ c ≠ '.' ∧ c ≠ 'e' ∧ c ≠ 'E'

section Readers

variable {ds rest : List Char}

/-- Digits are taken as far as they go. -/
theorem takeWhile_isDigit_append (hdigits : ∀ c ∈ ds, c.isDigit)
    (hrest : ∀ c ∈ rest.head?, c.isDigit = false) :
    (ds ++ rest).takeWhile Char.isDigit = ds ∧ (ds ++ rest).dropWhile Char.isDigit = rest := by
  have hnone : rest.takeWhile Char.isDigit = [] ∧ rest.dropWhile Char.isDigit = rest := by
    cases rest with
    | nil => exact ⟨rfl, rfl⟩
    | cons c rest =>
      have hc := hrest c rfl
      simp [hc]
  rw [List.takeWhile_append_of_pos hdigits, List.dropWhile_append_of_pos hdigits, hnone.1, hnone.2,
    List.append_nil]
  exact ⟨rfl, rfl⟩

theorem readFraction_append (hdigits : ∀ c ∈ ds, c.isDigit) (hne : ds ≠ [])
    (hrest : ∀ c ∈ rest.head?, c.isDigit = false) :
    readFraction ('.' :: (ds ++ rest)) = some (ds, rest) := by
  obtain ⟨htake, hdrop⟩ := takeWhile_isDigit_append hdigits hrest
  rw [readFraction, htake, hdrop, if_neg (by simpa using hne)]

theorem readFraction_of_ends (hrest : ∀ c ∈ rest.head?, c ≠ '.') :
    readFraction rest = some ([], rest) := by
  unfold readFraction
  split
  · exact absurd rfl (hrest '.' rfl)
  · rfl

theorem readPower_append {exponent : Exponent} (hwell : exponent.WellFormed)
    (hrest : ∀ c ∈ rest.head?, c.isDigit = false) :
    readPower ((if exponent.negative then '-' else '+') :: (exponent.digits ++ rest)) =
      some (some exponent, rest) := by
  obtain ⟨htake, hdrop⟩ := takeWhile_isDigit_append hwell.digits hrest
  obtain ⟨negative, digits⟩ := exponent
  have hne : digits.isEmpty = false := by simpa using hwell.ne_nil
  cases negative <;> simp_all [readPower]

theorem readExponent_of_ends (hrest : ∀ c ∈ rest.head?, c ≠ 'e' ∧ c ≠ 'E') :
    readExponent rest = some (none, rest) := by
  unfold readExponent
  split
  · exact absurd rfl (hrest 'e' rfl).1
  · exact absurd rfl (hrest 'E' rfl).2
  · rfl

end Readers

namespace Numeral

theorem readExponent_power (numeral : Numeral) (hwell : numeral.WellFormed) {rest : List Char}
    (hends : EndsNumeral rest) :
    readExponent (numeral.power ++ rest) = some (numeral.exponent, rest) := by
  rw [power]
  cases hexponent : numeral.exponent with
  | none => exact readExponent_of_ends fun c hc ↦ (hends c hc).2.2
  | some exponent =>
    exact readPower_append (hwell.exponent exponent hexponent) fun c hc ↦ (hends c hc).1

/-- Behind the digits of a number there is no further digit, and no point. -/
theorem head?_power_append (numeral : Numeral) {rest : List Char} (hends : EndsNumeral rest) :
    ∀ c ∈ (numeral.power ++ rest).head?, c.isDigit = false ∧ c ≠ '.' := by
  rw [power]
  cases numeral.exponent with
  | none => exact fun c hc ↦ ⟨(hends c hc).1, (hends c hc).2.1⟩
  | some exponent =>
    intro c hc
    obtain rfl := Option.some.inj hc
    decide

theorem readFraction_places (numeral : Numeral) (hwell : numeral.WellFormed) {rest : List Char}
    (hends : EndsNumeral rest) :
    readFraction (numeral.places ++ (numeral.power ++ rest)) =
      some (numeral.fraction, numeral.power ++ rest) := by
  have hhead := numeral.head?_power_append hends
  rw [places]
  split
  · next hempty =>
    rw [List.isEmpty_iff.1 hempty]
    exact readFraction_of_ends fun c hc ↦ (hhead c hc).2
  · next hnonempty =>
    have hne : numeral.fraction ≠ [] := fun hnil ↦ hnonempty (List.isEmpty_iff.2 hnil)
    exact readFraction_append hwell.fraction hne fun c hc ↦ (hhead c hc).1

/-- Behind the whole digits of a number there is no further digit. -/
theorem head?_places_append (numeral : Numeral) {rest : List Char} (hends : EndsNumeral rest) :
    ∀ c ∈ (numeral.places ++ (numeral.power ++ rest)).head?, c.isDigit = false := by
  rw [places]
  split
  · exact fun c hc ↦ (numeral.head?_power_append hends c hc).1
  · intro c hc
    obtain rfl := Option.some.inj hc
    decide

theorem readUnsigned_whole (numeral : Numeral) (hwell : numeral.WellFormed) {rest : List Char}
    (hends : EndsNumeral rest) :
    readUnsigned numeral.negative
      (numeral.whole ++ (numeral.places ++ (numeral.power ++ rest))) = some (numeral, rest) := by
  obtain ⟨htake, hdrop⟩ :=
    takeWhile_isDigit_append hwell.whole (numeral.head?_places_append hends)
  have hne := hwell.ne_nil
  have hzero := hwell.ne_zero_cons
  rw [readUnsigned, htake, hdrop, numeral.readFraction_places hwell hends]
  split
  · next hnil => exact absurd hnil hne
  · next c cs hcons => exact absurd hcons (hzero c cs)
  · simp only [Option.bind_eq_bind, Option.bind_some, numeral.readExponent_power hwell hends]

end Numeral

/-- A number is read back from its text. -/
theorem readNumeral_text (numeral : Numeral) (hwell : numeral.WellFormed) {rest : List Char}
    (hends : EndsNumeral rest) : readNumeral (numeral.text ++ rest) = some (numeral, rest) := by
  have hread := numeral.readUnsigned_whole hwell hends
  rw [Numeral.text, List.append_assoc, List.append_assoc, List.append_assoc]
  cases hnegative : numeral.negative with
  | true =>
    rw [hnegative] at hread
    exact hread
  | false =>
    obtain ⟨digit, digits, hwhole⟩ := List.exists_cons_of_ne_nil hwell.ne_nil
    have hdigit : digit ≠ '-' := by
      rintro rfl
      exact absurd (hwell.whole '-' (hwhole ▸ List.mem_cons_self)) (by decide)
    rw [hnegative] at hread
    rw [hwhole] at hread ⊢
    rw [← hread]
    exact readNumeral.eq_2 _ fun rest hrest ↦ hdigit (List.cons.inj hrest).1

theorem Numeral.wellFormed_ofNat (n : Nat) : (Numeral.ofNat n).WellFormed where
  ne_nil := Nat.toDigits_ne_nil
  whole _ hc := Decimal.isDigit_of_mem_digits hc
  ne_zero_cons := Decimal.digits_ne_zero_cons n
  fraction := nofun
  exponent := nofun

theorem Numeral.toNat?_ofNat {n : Nat} (hn : n < counterEnd) :
    (Numeral.ofNat n).toNat? = some n := by
  have hvalue := Decimal.ofDigitChars_digits n
  have hread := Text.numberBelow?_eq counterEnd (Decimal.digits n)
    (fun _ ↦ Decimal.isDigit_of_mem_digits) (by rwa [hvalue])
  rw [hvalue] at hread
  exact hread

end Json

end Lexeme
