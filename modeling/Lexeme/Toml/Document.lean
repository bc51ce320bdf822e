import Lexeme.Toml.Quoted

/-!
# Writing TOML documents

A document is a row of sections with a blank line between them; a section has a header and a line
for each of its keys, whose values are texts and switches.
-/

set_option autoImplicit false
set_option relaxedAutoImplicit false

namespace Lexeme.Toml

/-- A value that is written on the line of its key. -/
inductive Scalar where
  | text (text : String)
  | flag (value : Bool)
  deriving Repr, DecidableEq

/-- The text of a value. -/
def Scalar.written : Scalar → List Char
  | text content => quote content
  | flag true => "true".toList
  | flag false => "false".toList

/-- A line that sets a key. -/
def keyLine (key : String) (value : Scalar) : List Char :=
  key.toList ++ [' ', '=', ' '] ++ value.written ++ ['\n']

/-- A table under a header of its own. -/
structure Section where
  name : String
  entries : List (String × Scalar)
  deriving Repr, DecidableEq

namespace Section

/-- The line that starts a section. -/
def header (name : String) : List Char :=
  '[' :: name.toList ++ [']', '\n']

def written (part : Section) : List Char :=
  header part.name ++ part.entries.flatMap fun (key, value) ↦ keyLine key value

end Section

/-- A document as characters. -/
def documentText (parts : List Section) : List Char :=
  ['\n'].intercalate (parts.map Section.written)

end Lexeme.Toml
