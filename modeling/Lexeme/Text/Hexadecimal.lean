/-!
# Hexadecimal digits

Hexadecimal digits, read in either letter case. The digits of smaller bases are among them.
-/

set_option autoImplicit false
set_option relaxedAutoImplicit false

namespace Lexeme.Text

/-- The value of a hexadecimal digit. -/
def hexValue? (c : Char) : Option Nat :=
  if '0' ≤ c ∧ c ≤ '9' then some (c.toNat - '0'.toNat)
  else if 'a' ≤ c ∧ c ≤ 'f' then some (c.toNat - 'a'.toNat + 10)
  else if 'A' ≤ c ∧ c ≤ 'F' then some (c.toNat - 'A'.toNat + 10)
  else none

/-- The number of hexadecimal digits, the first of which counts most. -/
def hexNumber? (digits : List Char) : Option Nat :=
  digits.foldlM (fun value c ↦ (hexValue? c).map (value * 16 + ·)) 0

/-- The number that digits of a base stand for, if it is below an end. No number past the end is
computed. -/
def numberBelow? (base finish : Nat) (digits : List Char) : Option Nat :=
  digits.foldlM (fun value c ↦ do
    let next := value * base + (← hexValue? c)
    if next < finish then some next else none) 0

end Lexeme.Text
