import Lexeme.Text.Quoted

/-!
# Writing TOML strings

Of the four forms a string can have, the first one that fits is taken: quotes on one line, then
apostrophes on one line, then either over several lines.
-/

set_option autoImplicit false
set_option relaxedAutoImplicit false

namespace Lexeme.Toml

/-- The length of the longest run of a character, after a run of a given length just before. -/
def longestRunFrom (c : Char) (run longest : Nat) : List Char → Nat
  | [] => max run longest
  | d :: rest =>
    if d = c then longestRunFrom c (run + 1) longest rest
    else longestRunFrom c 0 (max run longest) rest

/-- The length of the longest run of a character. -/
def longestRun (c : Char) (cs : List Char) : Nat :=
  longestRunFrom c 0 0 cs

/-- Whether a character can only be written as an escape. -/
def needsEscape (c : Char) : Bool :=
  (c.toNat < 0x20 && c != '\t' && c != '\n') || c.toNat == 0x7f

/-- An escape of a character, if it has to be escaped in strings with escapes on one line. -/
def escape? (c : Char) : Option (List Char) :=
  match c with
  | '\x08' => some ['\\', 'b']
  | '\t' => some ['\\', 't']
  | '\n' => some ['\\', 'n']
  | '\x0c' => some ['\\', 'f']
  | '\r' => some ['\\', 'r']
  | '"' => some ['\\', '"']
  | '\\' => some ['\\', '\\']
  | c =>
    if c.toNat < 0x20 || c.toNat == 0x7f then
      some ['\\', 'u', '0', '0', (Nat.digitChar (c.toNat / 16)).toUpper,
        (Nat.digitChar (c.toNat % 16)).toUpper]
    else none

/-- The content of a string with escapes on one line. -/
def basicContent (cs : List Char) : List Char :=
  cs.flatMap fun c ↦ (escape? c).getD [c]

/-- The content of a string with escapes over several lines. Line feeds stay, and so do quotes, up to
two in a row. -/
def multiBasicContent (quotes : Nat) : List Char → List Char
  | [] => []
  | c :: rest =>
    if c = '"' then
      if quotes < 2 then '"' :: multiBasicContent (quotes + 1) rest
      else '\\' :: '"' :: multiBasicContent 0 rest
    else if c = '\n' then '\n' :: multiBasicContent 0 rest
    else (escape? c).getD [c] ++ multiBasicContent 0 rest

/-- Whether a text can stand in quotes on one line without escapes. -/
def fitsPlain (cs : List Char) : Bool :=
  !cs.any needsEscape && !cs.contains '\\' && !cs.contains '\n' && longestRun '"' cs == 0

/-- Whether a text can stand in apostrophes on one line. -/
def fitsLiteral (cs : List Char) : Bool :=
  !cs.any needsEscape && !cs.contains '\n' && longestRun '\'' cs == 0

/-- Whether a text can stand in quotes over several lines without escapes. -/
def fitsMultiPlain (cs : List Char) : Bool :=
  !cs.any needsEscape && !cs.contains '\\' && longestRun '"' cs ≤ 2

/-- Whether a text can stand in apostrophes over several lines. -/
def fitsMultiLiteral (cs : List Char) : Bool :=
  !cs.any needsEscape && longestRun '\'' cs ≤ 2

/-- A line feed behind the opening quotes, which does not count, before a text of several lines. -/
def openingBreak (cs : List Char) : List Char :=
  if cs.contains '\n' then ['\n'] else []

def writeBasic (cs : List Char) : List Char :=
  '"' :: basicContent cs ++ ['"']

def writeLiteral (cs : List Char) : List Char :=
  '\'' :: cs ++ ['\'']

def writeMultiBasic (cs : List Char) : List Char :=
  ['"', '"', '"'] ++ openingBreak cs ++ multiBasicContent 0 cs ++ ['"', '"', '"']

def writeMultiLiteral (cs : List Char) : List Char :=
  ['\'', '\'', '\''] ++ openingBreak cs ++ cs ++ ['\'', '\'', '\'']

/-- A text as a string. -/
def quote (text : String) : List Char :=
  let cs := text.toList
  if fitsPlain cs then writeBasic cs
  else if fitsLiteral cs then writeLiteral cs
  else if fitsMultiPlain cs then writeMultiBasic cs
  else if fitsMultiLiteral cs then writeMultiLiteral cs
  else if cs.contains '\n' then writeMultiBasic cs
  else writeBasic cs

end Lexeme.Toml
