import Lexeme.CharClass
import Lexeme.Proofs.RangeTree
import Mathlib.Tactic.SplitIfs

/-!
# Classes of characters

The class of a character is found by trying tests in order, and a character of one class may fit a
later test as well. No character does: letters and decimal digits have no code point in common
(`isDecimalDigit_eq_false_of_isLetter`), and the other classes are small tables that lie outside
both. Each class is therefore its own test (`of_eq_digit_iff` and those after it), and what
continues a word is a letter, a digit or the underscore (`isWordContinue_eq_true_iff`). That
letters and digits of ASCII are told without their tables makes no difference
(`isLetter_eq_inCategoryL`, `isDecimalDigit_eq_inCategoryNd`).
-/

set_option autoImplicit false
set_option relaxedAutoImplicit false

namespace Lexeme

open Text (isDecimalDigit isLetter isSeparator letterRanges decimalDigitRanges RangeTree
  inCategoryNd inCategoryL inCategoryZ)

/-! ### The letters and digits of ASCII -/

theorem ascii_ofNat_categories :
    ∀ code < 128, (Char.ofNat code).isDigit = inCategoryNd (Char.ofNat code) ∧
      (Char.ofNat code).isAlpha = inCategoryL (Char.ofNat code) := by
  decide +kernel

/-- The digits and letters of ASCII are the characters of ASCII in their categories. -/
theorem ascii_categories {c : Char} (hascii : c.toNat < 128) :
    c.isDigit = inCategoryNd c ∧ c.isAlpha = inCategoryL c := by
  simpa using ascii_ofNat_categories c.toNat hascii

theorem isDecimalDigit_eq_inCategoryNd (c : Char) : isDecimalDigit c = inCategoryNd c := by
  rw [isDecimalDigit]
  split_ifs with hascii
  · exact (ascii_categories hascii).1
  · rfl

theorem isLetter_eq_inCategoryL (c : Char) : isLetter c = inCategoryL c := by
  rw [isLetter]
  split_ifs with hascii
  · exact (ascii_categories hascii).2
  · rfl

/-! ### Letters and digits -/

theorem ascending_letterRanges : Text.Ascending letterRanges := by decide +kernel

theorem ascending_decimalDigitRanges : Text.Ascending decimalDigitRanges := by decide +kernel

theorem ascending_spaceRanges : Text.Ascending Text.spaceRanges := by decide

/-- No range of letters starts at a digit, and no range of digits at a letter. -/
theorem starts_letterRanges_decimalDigitRanges :
    (∀ range ∈ letterRanges, Text.decimalDigitTree.contains range.1 = false) ∧
      ∀ range ∈ decimalDigitRanges, Text.letterTree.contains range.1 = false := by
  decide +kernel

/-- No letter is a decimal digit. Where two ranges meet, one of them starts inside the other. -/
theorem isDecimalDigit_eq_false_of_isLetter {c : Char} (hletter : isLetter c = true) :
    isDecimalDigit c = false := by
  rw [isLetter_eq_inCategoryL] at hletter
  rw [isDecimalDigit_eq_inCategoryNd, Bool.eq_false_iff]
  intro hdigit
  obtain ⟨a, ha, hafirst, halast⟩ :=
    (RangeTree.contains_ofSorted_iff ascending_letterRanges c.toNat).mp hletter
  obtain ⟨b, hb, hbfirst, hblast⟩ :=
    (RangeTree.contains_ofSorted_iff ascending_decimalDigitRanges c.toNat).mp hdigit
  rcases Nat.le_total a.1 b.1 with hle | hle
  · have hstart := starts_letterRanges_decimalDigitRanges.2 b hb
    have hinside : Text.letterTree.contains b.1 = true :=
      (RangeTree.contains_ofSorted_iff ascending_letterRanges b.1).mpr ⟨a, ha, hle, by omega⟩
    rw [hstart] at hinside
    cases hinside
  · have hstart := starts_letterRanges_decimalDigitRanges.1 a ha
    have hinside : Text.decimalDigitTree.contains a.1 = true :=
      (RangeTree.contains_ofSorted_iff ascending_decimalDigitRanges a.1).mpr ⟨b, hb, hle, by omega⟩
    rw [hstart] at hinside
    cases hinside

/-! ### A class is its own test -/

namespace CharClass

theorem of_eq_digit_iff (c : Char) : of c = digit ↔ isDecimalDigit c = true := by
  unfold of
  split_ifs <;> simp_all

theorem of_eq_letter_iff (c : Char) : of c = letter ↔ isLetter c = true := by
  constructor
  · intro hclass
    unfold of at hclass
    split_ifs at hclass with hdigit hletter
    exact hletter
  · intro hletter
    have hdigit := isDecimalDigit_eq_false_of_isLetter hletter
    simp [of, hdigit, hletter]

theorem of_operatorChars : ∀ c ∈ operatorChars, of c = operator := by
  have hall : operatorChars.all (fun c ↦ of c = operator) = true := by decide
  simpa using hall

theorem of_delimiterChars : ∀ c ∈ delimiterChars, of c = delimiter := by
  have hall : delimiterChars.all (fun c ↦ of c = delimiter) = true := by decide
  simpa using hall

@[simp] theorem of_quote : of '"' = quote := by decide

@[simp] theorem of_underscore : of '_' = other := by decide

theorem of_eq_quote_iff (c : Char) : of c = quote ↔ c = '"' := by
  constructor
  · intro hclass
    unfold of at hclass
    split_ifs at hclass with _ _ hquote
    exact hquote
  · rintro rfl
    exact of_quote

theorem of_eq_operator_iff (c : Char) : of c = operator ↔ isOperatorChar c = true := by
  constructor
  · intro hclass
    unfold of at hclass
    split_ifs at hclass with _ _ _ hoperator
    exact hoperator
  · intro hoperator
    exact of_operatorChars c (List.contains_iff_mem.mp hoperator)

theorem of_eq_delimiter_iff (c : Char) : of c = delimiter ↔ isDelimiterChar c = true := by
  constructor
  · intro hclass
    unfold of at hclass
    split_ifs at hclass with _ _ _ _ hdelimiter
    exact hdelimiter
  · intro hdelimiter
    exact of_delimiterChars c (List.contains_iff_mem.mp hdelimiter)

theorem of_controlSeparators : ∀ c ∈ Text.controlSeparators, of c = whitespace := by
  have hall : Text.controlSeparators.all (fun c ↦ of c = whitespace) = true := by decide
  simpa using hall

/-- The separators of the categories of spaces are few, and each of them is of the class. -/
theorem of_eq_whitespace_of_mem_spaceRanges :
    ∀ range ∈ Text.spaceRanges, ∀ further < range.2 + 1 - range.1,
      isSeparator (Char.ofNat (range.1 + further)) = true →
        of (Char.ofNat (range.1 + further)) = whitespace := by
  decide +kernel

theorem of_eq_whitespace_iff (c : Char) : of c = whitespace ↔ isSeparator c = true := by
  constructor
  · intro hclass
    unfold of at hclass
    split_ifs at hclass with _ _ _ _ _ hseparator
    exact hseparator
  · intro hseparator
    have hcategory := hseparator
    rw [isSeparator] at hcategory
    split_ifs at hcategory with hcontrol
    · exact of_controlSeparators c (List.contains_iff_mem.mp hcontrol)
    · obtain ⟨range, hrange, hfirst, hlast⟩ :=
        (RangeTree.contains_ofSorted_iff ascending_spaceRanges c.toNat).mp hcategory
      have hspace := of_eq_whitespace_of_mem_spaceRanges range hrange (c.toNat - range.1)
        (by omega)
      rw [Nat.add_sub_cancel' hfirst, Char.ofNat_toNat] at hspace
      exact hspace hseparator

end CharClass

/-- What continues a word is the underscore or has the class of a letter or of a digit. -/
theorem isWordContinue_eq_true_iff (c : Char) :
    isWordContinue c = true ↔
      c = '_' ∨ CharClass.of c = .letter ∨ CharClass.of c = .digit := by
  rw [CharClass.of_eq_letter_iff, CharClass.of_eq_digit_iff]
  simp [isWordContinue, or_assoc]

/-! ### Characters between tokens -/

/-- A character that belongs to no token where it does not continue a word: a separator, or a
character outside every class. -/
def IsGap (c : Char) : Prop :=
  CharClass.of c = .whitespace ∨ CharClass.of c = .other

instance : DecidablePred IsGap := fun _ ↦ inferInstanceAs (Decidable (_ ∨ _))

end Lexeme
