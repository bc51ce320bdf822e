/-!
# TOML values

Values of the TOML data format, and reading them as data of a known shape. Nothing is ever read from
a fraction or a date, so these are all alike. No table holds a key twice.
-/

set_option autoImplicit false
set_option relaxedAutoImplicit false

namespace Lexeme.Toml

/-- A TOML value. -/
inductive Value where
  | string (text : String)
  | integer (value : Int)
  | fraction
  | boolean (value : Bool)
  | date
  | array (items : List Value)
  | table (entries : List (String × Value))
  deriving Repr, Inhabited

namespace Value

def text? : Value → Option String
  | string text => some text
  | _ => none

def flag? : Value → Option Bool
  | boolean value => some value
  | _ => none

/-- A number that is not negative. -/
def counter? : Value → Option Nat
  | integer (.ofNat n) => some n
  | _ => none

/-- Whether nothing is in an array or a table. -/
def isEmpty : Value → Bool
  | array items => items.isEmpty
  | table entries => entries.isEmpty
  | _ => false

/-- The name of a choice: a string, or a table with nothing under that one name. -/
def choice? : Value → Option String
  | string name => some name
  | table [(name, content)] => if content.isEmpty then some name else none
  | _ => none

/-- The fields of a record by their names. A record is a table, whose other entries are passed over,
or an array that starts with the fields in order. A date is a record without fields. -/
def fields? (names : List String) : Value → Option (List (Option Value))
  | table entries => some (names.map fun name ↦ entries.lookup name)
  | array items =>
    let present := (items.take names.length).map some
    some (present ++ List.replicate (names.length - present.length) none)
  | date => some (names.map fun _ ↦ none)
  | _ => none

end Value

end Lexeme.Toml
