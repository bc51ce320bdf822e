import Lexeme.Text.DecimalDigits
import Lexeme.Text.Letters
import Lexeme.Token

/-!
# Classes of characters

The class of a character decides which token it can start. A character belongs to the first class
in order that it fits.
-/

set_option autoImplicit false
set_option relaxedAutoImplicit false

namespace Lexeme

open Text (isDecimalDigit isLetter isSeparator)

/-- Classes of characters, in the order in which they are tried. -/
inductive CharClass where
  | digit
  | letter
  | quote
  | operator
  | delimiter
  | whitespace
  | other
  deriving Repr, DecidableEq

namespace CharClass

/-- The class of a character. -/
def of (c : Char) : CharClass :=
  if isDecimalDigit c then digit
  else if isLetter c then letter
  else if c = '"' then quote
  else if isOperatorChar c then operator
  else if isDelimiterChar c then delimiter
  else if isSeparator c then whitespace
  else other

/-- Whether a token can start with a character of the class. -/
def startsToken : CharClass → Bool
  | whitespace => false
  | other => false
  | _ => true

/-- Name of a class. -/
def name : CharClass → String
  | digit => "Digit"
  | letter => "Letter"
  | quote => "Quote"
  | operator => "Operator"
  | delimiter => "Delimiter"
  | whitespace => "Whitespace"
  | other => "Other"

end CharClass

/-- Whether a character continues a word that a letter has started. -/
def isWordContinue (c : Char) : Bool :=
  c == '_' || isLetter c || isDecimalDigit c

end Lexeme
