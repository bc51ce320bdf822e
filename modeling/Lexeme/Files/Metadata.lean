import Lexeme.Decimal.Fixed
import Lexeme.Limits
import Lexeme.Text.Lowercase

/-!
# What is known about a file

What is known about a file besides its text: its canonical path, its size, its extension and its
number of lines.
-/

set_option autoImplicit false
set_option relaxedAutoImplicit false

namespace Lexeme.Files

open Decimal (Magnitude)

/-- The part of a text before the last of a character, and the part after it. -/
def splitLast? (c : Char) (cs : List Char) : Option (List Char × List Char) :=
  match cs.reverse.dropWhile (· != c) with
  | _ :: before => some (before.reverse, (cs.reverse.takeWhile (· != c)).reverse)
  | [] => none

/-- The last name of a path. -/
def fileName (path : List Char) : List Char :=
  match splitLast? '/' path with
  | some (_, name) => name
  | none => path

/-- The extension of a file name: what follows its last dot, unless nothing stands before it. -/
def extension? (name : List Char) : Option (List Char) :=
  if name = ['.', '.'] then none
  else
    match splitLast? '.' name with
    | some (before, after) => if before.isEmpty then none else some after
    | none => none

/-- The extension of a path in lower case. -/
def pathExtension? (path : String) : Option String :=
  (extension? (fileName path.toList)).map fun extension ↦ Text.lowercase (String.ofList extension)

/-- Units of size, each 1024 times the one before. -/
def sizeUnits : List String := ["KB", "MB", "GB"]

/-- A size in the greatest unit that it reaches, with two places. -/
def sizeIn (size : Magnitude) : List String → String
  | [] => ""
  | [unit] => size.fixed 2 ++ " " ++ unit
  | unit :: units =>
    if (Magnitude.ofNat 1024).le size then sizeIn (size.div (.ofNat 1024)) units
    else size.fixed 2 ++ " " ++ unit

/-- A size in words: in bytes when it is small, otherwise in the greatest unit that it reaches. -/
def humanSize (bytes : Nat) : String :=
  let size := Magnitude.ofNat bytes
  if (Magnitude.ofNat 1024).le size then sizeIn (size.div (.ofNat 1024)) sizeUnits
  else toString bytes ++ " B"

/-- What is known about a file. -/
structure Metadata where
  path : String
  size : Nat
  extension : Option String
  lineCount : Nat
  deriving Repr, DecidableEq

namespace Metadata

def humanSize (metadata : Metadata) : String :=
  Files.humanSize metadata.size

/-- Whether the file is larger than usual. -/
def isLarge (metadata : Metadata) : Bool :=
  Limits.current.largeFileThreshold < metadata.size

/-- Whether the file has an extension, given in lower case. -/
def hasExtension (metadata : Metadata) (expected : String) : Bool :=
  metadata.extension == some expected

/-- The extension in a word. -/
def extensionText (metadata : Metadata) : String :=
  metadata.extension.getD "none"

end Metadata

end Lexeme.Files
