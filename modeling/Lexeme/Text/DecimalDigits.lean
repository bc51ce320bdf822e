import Lexeme.Text.RangeTree

/-!
# Decimal digits and separators

Decimal digits of every script (general category Nd, Unicode 15.0), and the characters that separate
tokens. Separators are the space, line and paragraph separators other than the no-break spaces,
with the control whitespace of ASCII and its four information separators.
-/

set_option autoImplicit false
set_option relaxedAutoImplicit false

namespace Lexeme.Text

/-- Code points of the decimal digits, in increasing order. -/
def decimalDigitRanges : List (Nat × Nat) := [
  (0x30, 0x39), (0x660, 0x669), (0x6f0, 0x6f9), (0x7c0, 0x7c9), (0x966, 0x96f), (0x9e6, 0x9ef),
  (0xa66, 0xa6f), (0xae6, 0xaef), (0xb66, 0xb6f), (0xbe6, 0xbef), (0xc66, 0xc6f), (0xce6, 0xcef),
  (0xd66, 0xd6f), (0xde6, 0xdef), (0xe50, 0xe59), (0xed0, 0xed9), (0xf20, 0xf29),
  (0x1040, 0x1049), (0x1090, 0x1099), (0x17e0, 0x17e9), (0x1810, 0x1819), (0x1946, 0x194f),
  (0x19d0, 0x19d9), (0x1a80, 0x1a89), (0x1a90, 0x1a99), (0x1b50, 0x1b59), (0x1bb0, 0x1bb9),
  (0x1c40, 0x1c49), (0x1c50, 0x1c59), (0xa620, 0xa629), (0xa8d0, 0xa8d9), (0xa900, 0xa909),
  (0xa9d0, 0xa9d9), (0xa9f0, 0xa9f9), (0xaa50, 0xaa59), (0xabf0, 0xabf9), (0xff10, 0xff19),
  (0x104a0, 0x104a9), (0x10d30, 0x10d39), (0x11066, 0x1106f), (0x110f0, 0x110f9),
  (0x11136, 0x1113f), (0x111d0, 0x111d9), (0x112f0, 0x112f9), (0x11450, 0x11459),
  (0x114d0, 0x114d9), (0x11650, 0x11659), (0x116c0, 0x116c9), (0x11730, 0x11739),
  (0x118e0, 0x118e9), (0x11950, 0x11959), (0x11c50, 0x11c59), (0x11d50, 0x11d59),
  (0x11da0, 0x11da9), (0x11f50, 0x11f59), (0x16a60, 0x16a69), (0x16ac0, 0x16ac9),
  (0x16b50, 0x16b59), (0x1d7ce, 0x1d7ff), (0x1e140, 0x1e149), (0x1e2f0, 0x1e2f9),
  (0x1e4f0, 0x1e4f9), (0x1e950, 0x1e959), (0x1fbf0, 0x1fbf9)]

def decimalDigitTree : RangeTree :=
  .ofSorted decimalDigitRanges

/-- Whether a character is in the general category Nd. -/
def inCategoryNd (c : Char) : Bool :=
  decimalDigitTree.contains c.toNat

/-- Whether a character is a decimal digit of some script. In ASCII no table is searched. -/
def isDecimalDigit (c : Char) : Bool :=
  if c.toNat < 128 then c.isDigit else inCategoryNd c

/-- Code points of the general categories Zs, Zl and Zp, in increasing order. -/
def spaceRanges : List (Nat × Nat) := [
  (0x20, 0x20), (0xa0, 0xa0), (0x1680, 0x1680), (0x2000, 0x200a), (0x2028, 0x2029),
  (0x202f, 0x202f), (0x205f, 0x205f), (0x3000, 0x3000)]

def spaceTree : RangeTree :=
  .ofSorted spaceRanges

/-- Whether a character is in one of the general categories Zs, Zl and Zp. -/
def inCategoryZ (c : Char) : Bool :=
  spaceTree.contains c.toNat

/-- The control whitespace of ASCII and its four information separators. -/
def controlSeparators : List Char :=
  ['\t', '\n', '\x0b', '\x0c', '\r', '\x1c', '\x1d', '\x1e', '\x1f']

/-- The spaces at which a line is not broken. -/
def noBreakSpaces : List Char :=
  ['\u00a0', '\u2007', '\u202f']

/-- Whether a character separates tokens without belonging to one. -/
def isSeparator (c : Char) : Bool :=
  if controlSeparators.contains c then true
  else if noBreakSpaces.contains c then false
  else inCategoryZ c

end Lexeme.Text
