import Lexeme.Text.Hexadecimal

/-!
# Reading TOML strings

There are strings on one line and over several lines, each with escapes or without. A line end
inside a string counts as one line feed, however it is written, and one just behind the opening
quotes does not count.
-/

set_option autoImplicit false
set_option relaxedAutoImplicit false

namespace Lexeme.Toml

open Text (hexNumber?)

/-- Whether a character separates parts on a line. -/
def isSpace (c : Char) : Bool :=
  c == ' ' || c == '\t'

/-- Whether a character may stand on a line, in a comment or a string: no control except the tab. -/
def isLineChar (c : Char) : Bool :=
  c == '\t' || (0x20 ≤ c.toNat && c.toNat != 0x7f)

/-- The character with the code point that hexadecimal digits give. -/
def codeChar? (digits : List Char) : Option Char :=
  (hexNumber? digits).bind fun code ↦ if code.isValidChar then some (Char.ofNat code) else none

/-- The character behind a backslash and one letter. -/
def shortEscape? : Char → Option Char
  | 'b' => some '\x08'
  | 't' => some '\t'
  | 'n' => some '\n'
  | 'f' => some '\x0c'
  | 'r' => some '\r'
  | '"' => some '"'
  | '\\' => some '\\'
  | _ => none

/-- Reads a string with escapes up to its quote; characters so far are given in reverse. -/
def readBasic (found : List Char) : List Char → Option (String × List Char)
  | [] => none
  | '"' :: rest => some (String.ofList found.reverse, rest)
  | '\\' :: 'u' :: a :: b :: c :: d :: rest =>
    match codeChar? [a, b, c, d] with
    | some c => readBasic (c :: found) rest
    | none => none
  | '\\' :: 'U' :: a :: b :: c :: d :: e :: f :: g :: h :: rest =>
    match codeChar? [a, b, c, d, e, f, g, h] with
    | some c => readBasic (c :: found) rest
    | none => none
  | '\\' :: c :: rest =>
    match shortEscape? c with
    | some c => readBasic (c :: found) rest
    | none => none
  | c :: rest => if isLineChar c then readBasic (c :: found) rest else none

/-- Reads a string without escapes up to its quote. -/
def readLiteral (cs : List Char) : Option (String × List Char) :=
  match cs.dropWhile fun c ↦ isLineChar c && c != '\'' with
  | '\'' :: rest =>
    some (String.ofList (cs.takeWhile fun c ↦ isLineChar c && c != '\''), rest)
  | _ => none

/-- What becomes of spaces and line ends in a string over several lines. -/
inductive LineFold where
  /-- They belong to the string. -/
  | keep
  /-- A backslash came before, and a line end must follow. -/
  | awaitEnd
  /-- A backslash before a line end drops them all. -/
  | drop
  deriving DecidableEq

/-- Reads a string with escapes over several lines; characters so far are given in reverse. Up to two
quotes may stand before the three that end it. -/
def readMultiBasic (fold : LineFold) (found : List Char) :
    List Char → Option (String × List Char)
  | [] => none
  | '\n' :: rest =>
    if fold = .keep then readMultiBasic .keep ('\n' :: found) rest
    else readMultiBasic .drop found rest
  | '\r' :: '\n' :: rest =>
    if fold = .keep then readMultiBasic .keep ('\n' :: found) rest
    else readMultiBasic .drop found rest
  | c :: rest =>
    if isSpace c then
      if fold = .keep then readMultiBasic .keep (c :: found) rest
      else readMultiBasic fold found rest
    else if fold = .awaitEnd then none
    else if c = '"' then
      match rest with
      | '"' :: '"' :: '"' :: '"' :: rest => some (String.ofList ('"' :: '"' :: found).reverse, rest)
      | '"' :: '"' :: '"' :: rest => some (String.ofList ('"' :: found).reverse, rest)
      | '"' :: '"' :: rest => some (String.ofList found.reverse, rest)
      | rest => readMultiBasic .keep ('"' :: found) rest
    else if c = '\\' then
      match rest with
      | 'u' :: a :: b :: c :: d :: rest =>
        match codeChar? [a, b, c, d] with
        | some c => readMultiBasic .keep (c :: found) rest
        | none => none
      | 'U' :: a :: b :: c :: d :: e :: f :: g :: h :: rest =>
        match codeChar? [a, b, c, d, e, f, g, h] with
        | some c => readMultiBasic .keep (c :: found) rest
        | none => none
      | '\n' :: rest => readMultiBasic .drop found rest
      | '\r' :: '\n' :: rest => readMultiBasic .drop found rest
      | c :: rest =>
        if isSpace c then readMultiBasic .awaitEnd found rest
        else
          match shortEscape? c with
          | some c => readMultiBasic .keep (c :: found) rest
          | none => none
      | [] => none
    else if isLineChar c then readMultiBasic .keep (c :: found) rest
    else none

/-- Reads a string without escapes over several lines; characters so far are given in reverse. Up to
two quotes may stand before the three that end it. -/
def readMultiLiteral (found : List Char) : List Char → Option (String × List Char)
  | [] => none
  | '\r' :: '\n' :: rest => readMultiLiteral ('\n' :: found) rest
  | '\'' :: '\'' :: '\'' :: '\'' :: '\'' :: rest =>
    some (String.ofList ('\'' :: '\'' :: found).reverse, rest)
  | '\'' :: '\'' :: '\'' :: '\'' :: rest => some (String.ofList ('\'' :: found).reverse, rest)
  | '\'' :: '\'' :: '\'' :: rest => some (String.ofList found.reverse, rest)
  | c :: rest =>
    if isLineChar c || c == '\n' then readMultiLiteral (c :: found) rest else none

/-- What follows a line end, if one comes first. -/
def dropLineEnd : List Char → List Char
  | '\n' :: rest => rest
  | '\r' :: '\n' :: rest => rest
  | cs => cs

/-- Reads a string of any of the four forms. -/
def readString : List Char → Option (String × List Char)
  | '"' :: '"' :: '"' :: rest => readMultiBasic .keep [] (dropLineEnd rest)
  | '"' :: rest => readBasic [] rest
  | '\'' :: '\'' :: '\'' :: rest => readMultiLiteral [] (dropLineEnd rest)
  | '\'' :: rest => readLiteral rest
  | _ => none

end Lexeme.Toml
