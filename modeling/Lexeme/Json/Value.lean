import Lexeme.Json.Numeral

/-!
# JSON values

Values of the JSON data format, and reading them as data of a known shape. The members of an object
keep their order.
-/

set_option autoImplicit false
set_option relaxedAutoImplicit false

namespace Lexeme.Json

/-- A JSON value. Strings with half of a surrogate pair, and objects with such a key, may stand
where nothing is read from them, and are `unreadable` everywhere else. -/
inductive Value where
  | null
  | boolean (value : Bool)
  | number (numeral : Numeral)
  | string (text : String)
  | array (items : List Value)
  | object (members : List (String × Value))
  | unreadable
  deriving Repr, Inhabited

namespace Value

/-- The value of a counter. -/
def ofNat (n : Nat) : Value :=
  number (.ofNat n)

def isNull : Value → Bool
  | null => true
  | _ => false

def text? : Value → Option String
  | string text => some text
  | _ => none

def flag? : Value → Option Bool
  | boolean value => some value
  | _ => none

def counter? : Value → Option Nat
  | number numeral => numeral.toNat?
  | _ => none

def fraction? : Value → Option Decimal.Binary64
  | number numeral => numeral.toBinary64?
  | _ => none

def items? : Value → Option (List Value)
  | array items => some items
  | _ => none

def members? : Value → Option (List (String × Value))
  | object members => some members
  | _ => none

/-- The name of a choice: a string, or an object with nothing under that one name. -/
def choice? : Value → Option String
  | string name => some name
  | object [(name, null)] => some name
  | _ => none

/-- The value of a member, if there is one; two of one name are an error. -/
def member? (members : List (String × Value)) (name : String) : Option (Option Value) :=
  match members.filter (·.1 == name) with
  | [] => some none
  | [(_, value)] => some (some value)
  | _ => none

/-- The fields of a record by their names. A record is an object, whose other members are passed
over, or an array that holds the fields in order and nothing else. -/
def fields? (names : List String) : Value → Option (List (Option Value))
  | object members => names.mapM (member? members)
  | array items =>
    if items.length ≤ names.length then
      some (items.map some ++ List.replicate (names.length - items.length) none)
    else
      none
  | _ => none

end Value

end Lexeme.Json
