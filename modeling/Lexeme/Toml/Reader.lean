import Lexeme.Toml.Scalars
import Lexeme.Toml.Tree

/-!
# Reading TOML documents

A document is read line by line into statements, from which its table is built. Values and keys may
be nested only so deep.
-/

set_option autoImplicit false
set_option relaxedAutoImplicit false

namespace Lexeme.Toml

/-- Nesting of arrays and tables, and number of parts of a key, must stay below this. -/
def depthLimit : Nat := 80

def skipSpaces (cs : List Char) : List Char :=
  cs.dropWhile isSpace

/-- What follows a comment, if one comes first. -/
def skipComment : List Char → List Char
  | '#' :: rest => rest.dropWhile isLineChar
  | cs => cs

/-- What follows the end of a line, on which only spaces and a comment may be left. -/
def skipLineEnd (cs : List Char) : Option (List Char) :=
  match skipComment (skipSpaces cs) with
  | [] => some []
  | '\n' :: rest => some rest
  | '\r' :: '\n' :: rest => some rest
  | _ => none

/-- What follows spaces, line ends and comments; the first argument says whether a comment is still
open. -/
def skipGap (inComment : Bool) : List Char → List Char
  | [] => []
  | '\n' :: rest => skipGap false rest
  | '\r' :: '\n' :: rest => skipGap false rest
  | c :: rest =>
    if inComment then if isLineChar c then skipGap true rest else c :: rest
    else if isSpace c then skipGap false rest
    else if c = '#' then skipGap true rest
    else c :: rest

/-- Whether a character may stand in a key without quotes. -/
def isBareKeyChar (c : Char) : Bool :=
  c.isAlphanum || c == '-' || c == '_'

/-- One part of a key. -/
def readKeyPart : List Char → Option (String × List Char)
  | '"' :: rest => readBasic [] rest
  | '\'' :: rest => readLiteral rest
  | cs =>
    let part := cs.takeWhile isBareKeyChar
    if part.isEmpty then none else some (String.ofList part, cs.dropWhile isBareKeyChar)

/-- The parts of a key with dots between them; those so far are given in reverse. The first argument
bounds their number. -/
def readKeyParts : Nat → List String → List Char → Option (List String × List Char)
  | 0, _, _ => none
  | fuel + 1, found, cs =>
    match readKeyPart (skipSpaces cs) with
    | none => none
    | some (part, rest) =>
      match skipSpaces rest with
      | '.' :: rest => readKeyParts fuel (part :: found) rest
      | rest => some ((part :: found).reverse, rest)

/-- A key with the spaces around its parts. -/
def readKey (cs : List Char) : Option (List String × List Char) :=
  readKeyParts (depthLimit - 1) [] cs

mutual

/-- A value. The first argument bounds the depth of the calls, the second one is the number of arrays
and tables around the value. -/
def readValue : Nat → Nat → List Char → Option (Value × List Char)
  | 0, _, _ => none
  | fuel + 1, depth, cs =>
    match cs with
    | '[' :: rest =>
      if depth + 1 < depthLimit then
        (readItems fuel (depth + 1) [] rest).map fun (items, rest) ↦ (.array items, rest)
      else none
    | '{' :: rest =>
      if depth + 1 < depthLimit then
        match skipSpaces rest with
        | '}' :: rest => some (.table [], rest)
        | rest => (readPairs fuel (depth + 1) [] rest).map fun (entries, rest) ↦
          (.table (entriesValue entries).reverse, rest)
      else none
    | '"' :: _ => (readString cs).map fun (text, rest) ↦ (.string text, rest)
    | '\'' :: _ => (readString cs).map fun (text, rest) ↦ (.string text, rest)
    | _ => readScalar cs

/-- The items of an array up to its end; those so far are given in reverse. -/
def readItems : Nat → Nat → List Value → List Char → Option (List Value × List Char)
  | 0, _, _, _ => none
  | fuel + 1, depth, found, cs =>
    match skipGap false cs with
    | ']' :: rest => some (found.reverse, rest)
    | cs =>
      match readValue fuel depth cs with
      | none => none
      | some (item, rest) =>
        match skipGap false rest with
        | ',' :: rest => readItems fuel depth (item :: found) rest
        | ']' :: rest => some ((item :: found).reverse, rest)
        | _ => none

/-- The entries of a table on one line up to its end, added to those so far. -/
def readPairs : Nat → Nat → Entries → List Char → Option (Entries × List Char)
  | 0, _, _, _ => none
  | fuel + 1, depth, found, cs =>
    match readKey cs with
    | some (path, '=' :: rest) =>
      match readValue fuel depth (skipSpaces rest) with
      | none => none
      | some (value, rest) =>
        match found.assign value path with
        | none => none
        | some found =>
          match skipSpaces rest with
          | ',' :: rest => readPairs fuel depth found rest
          | '}' :: rest => some (found, rest)
          | _ => none
    | _ => none

end

/-- A header behind its opening brackets. -/
def readHeader (make : List String → Statement) (closing : List Char) (cs : List Char) :
    Option (List Statement × List Char) := do
  let (path, rest) ← readKey cs
  if closing.isPrefixOf rest then some ([make path], rest.drop closing.length) else none

/-- The statement on a line, if there is one. -/
def readStatement (fuel : Nat) (cs : List Char) : Option (List Statement × List Char) :=
  match cs with
  | [] => some ([], [])
  | '#' :: _ => some ([], cs)
  | '\n' :: _ => some ([], cs)
  | '\r' :: _ => some ([], cs)
  | '[' :: '[' :: rest => readHeader .item [']', ']'] rest
  | '[' :: rest => readHeader .header [']'] rest
  | _ =>
    match readKey cs with
    | some (path, '=' :: rest) =>
      (readValue fuel 0 (skipSpaces rest)).map fun (value, rest) ↦ ([.assign path value], rest)
    | _ => none

/-- The statements of the lines of a text; those so far are given in reverse. The first argument
bounds the number of lines. -/
def readStatements : Nat → List Statement → List Char → Option (List Statement)
  | 0, _, _ => none
  | fuel + 1, found, cs =>
    match readStatement (fuel + 1) (skipSpaces cs) with
    | none => none
    | some (statements, rest) =>
      match skipLineEnd rest with
      | none => none
      | some [] => some (statements ++ found).reverse
      | some rest => readStatements fuel (statements ++ found) rest

/-- A text without the mark of byte order in front. -/
def dropMark : List Char → List Char
  | '\ufeff' :: cs => cs
  | cs => cs

/-- The table that a document holds. -/
def Value.ofText? (text : String) : Option Value := do
  let cs := dropMark text.toList
  tableOf? (← readStatements (2 * cs.length + 2) [] cs)

end Lexeme.Toml
