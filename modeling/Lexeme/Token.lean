/-!
# Tokens

Tokens and the tables of characters that make operators and delimiters.
-/

set_option autoImplicit false
set_option relaxedAutoImplicit false

namespace Lexeme

/-- The five categories of token, in their order. -/
inductive TokenKind where
  | number
  | word
  | string
  | operator
  | delimiter
  deriving Repr, DecidableEq, Inhabited

namespace TokenKind

/-- Every kind, in order. -/
def all : List TokenKind := [number, word, string, operator, delimiter]

/-- Name of a kind in output. -/
def name : TokenKind → String
  | number => "NUMBER"
  | word => "WORD"
  | string => "STRING"
  | operator => "OPERATOR"
  | delimiter => "DELIMITER"

/-- The kind of a name. -/
def ofName? (name : String) : Option TokenKind :=
  all.find? (·.name == name)

/-- Position of a kind among all kinds. -/
def rank : TokenKind → Nat
  | number => 0
  | word => 1
  | string => 2
  | operator => 3
  | delimiter => 4

/-- The order of kinds. -/
def le (a b : TokenKind) : Bool :=
  a.rank ≤ b.rank

end TokenKind

/-- Characters that make operators. -/
def operatorChars : List Char := ['+', '-', '*', '/', '=', '<', '>', '!', '&', '|']

/-- Characters that are delimiters, each by itself. -/
def delimiterChars : List Char := [';', ',', '(', ')', '{', '}']

/-- The operators of two characters. -/
def pairOperators : List String := ["==", "!=", "<=", ">=", "&&", "||"]

def isOperatorChar (c : Char) : Bool := operatorChars.contains c

def isDelimiterChar (c : Char) : Bool := delimiterChars.contains c

/-- Whether a text is an operator of two characters. -/
def isPairOperator (text : String) : Bool := pairOperators.contains text

/-- A classified lexeme. The text of a string leaves out its quotes. -/
structure Token where
  kind : TokenKind
  text : String
  deriving Repr, DecidableEq, Inhabited

namespace Token

/-- Whether the token is an operator of two characters. -/
def isPairOperator (token : Token) : Bool :=
  token.kind == .operator && Lexeme.isPairOperator token.text

/-- The characters of the token as they stand in a source, quotes included. -/
def lexeme (token : Token) : List Char :=
  match token.kind with
  | .string => '"' :: token.text.toList ++ ['"']
  | _ => token.text.toList

/-- Bytes that the token takes in a source, quotes included. -/
def width (token : Token) : Nat :=
  match token.kind with
  | .string => token.text.utf8ByteSize + 2
  | _ => token.text.utf8ByteSize

/-- The token as it stands in a source. -/
def sourceText (token : Token) : String :=
  String.ofList token.lexeme

/-- The token as its kind around its text. -/
def render (token : Token) : String :=
  token.kind.name ++ "(" ++ token.text ++ ")"

end Token

end Lexeme
