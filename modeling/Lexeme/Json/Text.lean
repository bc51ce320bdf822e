import Lexeme.Decimal.Fixed
import Lexeme.Json.Value
import Lexeme.Text.Quoted

/-!
# Writing JSON

JSON text of values, on one line or with one member or item a line: the two layouts differ only in
the spaces between the parts of a value. Only the quote, the backslash and the controls below U+0020
are escaped in strings, so that no written value on one line holds such a control.
-/

set_option autoImplicit false
set_option relaxedAutoImplicit false

namespace Lexeme.Json

/-- How a character stands in a string. -/
def escape (c : Char) : List Char :=
  match c with
  | '"' => ['\\', '"']
  | '\\' => ['\\', '\\']
  | '\x08' => ['\\', 'b']
  | '\t' => ['\\', 't']
  | '\n' => ['\\', 'n']
  | '\x0c' => ['\\', 'f']
  | '\r' => ['\\', 'r']
  | c =>
    if c.toNat < 0x20 then
      ['\\', 'u', '0', '0', Nat.digitChar (c.toNat / 16), Nat.digitChar (c.toNat % 16)]
    else [c]

/-- A text as a string. -/
def quote (text : String) : List Char :=
  '"' :: text.toList.flatMap escape ++ ['"']

/-- The digits behind the point of a written number, with the point. -/
def Numeral.places (numeral : Numeral) : List Char :=
  if numeral.fraction.isEmpty then [] else '.' :: numeral.fraction

/-- The power of ten of a written number. It always has its sign. -/
def Numeral.power (numeral : Numeral) : List Char :=
  match numeral.exponent with
  | none => []
  | some exponent => 'e' :: (if exponent.negative then '-' else '+') :: exponent.digits

/-- A written number. -/
def Numeral.text (numeral : Numeral) : List Char :=
  (if numeral.negative then ['-'] else []) ++ numeral.whole ++ numeral.places ++ numeral.power

/-- Whether a character may stand between the parts of a text. -/
def isSpace (c : Char) : Bool :=
  c == ' ' || c == '\t' || c == '\n' || c == '\r'

/-- How the parts of a value are kept apart. -/
structure Layout where
  /-- What stands before an item or member, and before the end of an array or object, at a depth. -/
  gap : Nat → List Char
  /-- What stands behind a colon. -/
  colonGap : List Char
  gap_space : ∀ depth, (gap depth).all isSpace
  colonGap_space : colonGap.all isSpace

namespace Layout

/-- Everything on one line, without any space. -/
def line : Layout where
  gap _ := []
  colonGap := []
  gap_space _ := rfl
  colonGap_space := rfl

@[simp] theorem gap_line (depth : Nat) : line.gap depth = [] := rfl

@[simp] theorem colonGap_line : line.colonGap = [] := rfl

/-- One item or member a line, indented by its depth. -/
def lines : Layout where
  gap depth := '\n' :: List.replicate (2 * depth) ' '
  colonGap := [' ']
  gap_space depth := List.all_eq_true.2 fun c h ↦ by
    rcases List.mem_cons.1 h with rfl | h
    · rfl
    · rw [List.eq_of_mem_replicate h]
      rfl
  colonGap_space := rfl

end Layout

mutual

/-- A value in a layout, at a depth. -/
def Value.laidOut (layout : Layout) (depth : Nat) : Value → List Char
  | .null => "null".toList
  | .boolean true => "true".toList
  | .boolean false => "false".toList
  | .number numeral => numeral.text
  | .string text => quote text
  | .array [] => ['[', ']']
  | .array (item :: items) =>
    '[' :: layout.gap (depth + 1) ++ item.laidOut layout (depth + 1) ++
      laidOutItems layout depth items
  | .object [] => ['{', '}']
  | .object ((key, value) :: members) =>
    '{' :: layout.gap (depth + 1) ++ quote key ++ ':' :: layout.colonGap ++
      value.laidOut layout (depth + 1) ++ laidOutMembers layout depth members
  | .unreadable => []

/-- The items of an array after the first, up to its end. -/
def laidOutItems (layout : Layout) (depth : Nat) : List Value → List Char
  | [] => layout.gap depth ++ [']']
  | item :: items =>
    ',' :: layout.gap (depth + 1) ++ item.laidOut layout (depth + 1) ++
      laidOutItems layout depth items

/-- The members of an object after the first, up to its end. -/
def laidOutMembers (layout : Layout) (depth : Nat) : List (String × Value) → List Char
  | [] => layout.gap depth ++ ['}']
  | (key, value) :: members =>
    ',' :: layout.gap (depth + 1) ++ quote key ++ ':' :: layout.colonGap ++
      value.laidOut layout (depth + 1) ++ laidOutMembers layout depth members

end

/-- JSON text of a value on one line. -/
def Value.toLine (value : Value) : String :=
  String.ofList (value.laidOut .line 0)

/-- JSON text of a value with one member or item a line. -/
def Value.toLines (value : Value) : String :=
  String.ofList (value.laidOut .lines 0)

end Lexeme.Json
