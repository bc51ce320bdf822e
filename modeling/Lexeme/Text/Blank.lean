/-!
# Blanks

Blank characters, those with the White_Space property, and texts that hold nothing else. The
characters are also told by the ranges of their code points (`isBlank_iff`).
-/

set_option autoImplicit false
set_option relaxedAutoImplicit false

namespace Lexeme.Text

/-- Whether a character has the White_Space property. The four information separators have not. -/
def isBlank (c : Char) : Bool :=
  let code := c.toNat
  (0x9 ≤ code && code ≤ 0xd) || code == 0x20 || code == 0x85 || code == 0xa0 || code == 0x1680 ||
    (0x2000 ≤ code && code ≤ 0x200a) || code == 0x2028 || code == 0x2029 || code == 0x202f ||
    code == 0x205f || code == 0x3000

/-- Whether nothing is left of a text once blanks are trimmed from both ends. -/
def isBlankText (text : String) : Bool :=
  text.all isBlank

theorem isBlankText_eq (text : String) : isBlankText text = text.toList.all isBlank :=
  String.all_bool_eq

/-! ### Ranges -/

/-- The code points of the characters with the White_Space property, as ranges. -/
def whiteRanges : List (Nat × Nat) := [
  (0x9, 0xd), (0x20, 0x20), (0x85, 0x85), (0xa0, 0xa0), (0x1680, 0x1680), (0x2000, 0x200a),
  (0x2028, 0x2029), (0x202f, 0x202f), (0x205f, 0x205f), (0x3000, 0x3000)]

/-- A character in one of the ranges. -/
def IsWhite (c : Char) : Prop :=
  ∃ range ∈ whiteRanges, range.1 ≤ c.toNat ∧ c.toNat ≤ range.2

instance : DecidablePred IsWhite := fun _ ↦ inferInstanceAs (Decidable (∃ range ∈ whiteRanges, _))

theorem isBlank_iff {c : Char} : isBlank c = true ↔ IsWhite c := by
  simp only [isBlank, IsWhite, whiteRanges, Bool.or_eq_true, Bool.and_eq_true, decide_eq_true_eq,
    beq_iff_eq, List.mem_cons, List.not_mem_nil, or_false, exists_eq_or_imp, exists_eq_left]
  omega

theorem isBlankText_iff {text : String} :
    isBlankText text = true ↔ ∀ c ∈ text.toList, IsWhite c := by
  simp only [isBlankText_eq, List.all_eq_true, isBlank_iff]

end Lexeme.Text
