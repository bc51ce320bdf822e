/-!
# Disks

What a program sees of the files of its machine. A disk answers for every path what is there after
links are followed, or why nothing can be found.
-/

set_option autoImplicit false
set_option relaxedAutoImplicit false

namespace Lexeme.Files

/-- Why the system refuses an access. -/
inductive Fault where
  | permissionDenied
  | notFound
  | notDirectory
  | isDirectory
  | nameTooLong
  | tooManyLinks
  /-- A path holds a character that no file name can hold. -/
  | invalidName
  | other (text : String)
  deriving Repr, DecidableEq

/-- What the system says about a refused access. -/
def Fault.message : Fault → String
  | permissionDenied => "Permission denied (os error 13)"
  | notFound => "No such file or directory (os error 2)"
  | notDirectory => "Not a directory (os error 20)"
  | isDirectory => "Is a directory (os error 21)"
  | nameTooLong => "File name too long (os error 36)"
  | tooManyLinks => "Too many levels of symbolic links (os error 40)"
  | invalidName => "file name contained an unexpected NUL byte"
  | other text => text

/-- What is found at a path. A regular file has a canonical path, unless the system refuses to tell
it. -/
inductive Lookup where
  | missing (fault : Fault)
  | directory
  /-- Something that can be read but is no regular file. -/
  | device (bytes : ByteArray)
  | file (canonical : Except Fault String) (bytes : ByteArray)
  /-- A regular file of a known size that cannot be read. -/
  | unreadable (canonical : Except Fault String) (size : Nat) (fault : Fault)

/-- The answer for every path. -/
abbrev Disk := String → Lookup

/-- What is said about bytes that are no text. -/
def notText : String := "stream did not contain valid UTF-8"

/-- The text of bytes, or what is said about them if they are no text. -/
def textOf (bytes : ByteArray) : Except String String :=
  match String.fromUTF8? bytes with
  | some text => .ok text
  | none => .error notText

/-- The text of bytes is the one that they encode. -/
theorem textOf_eq_ok_iff {bytes : ByteArray} {text : String} :
    textOf bytes = .ok text ↔ text.toUTF8 = bytes := by
  unfold textOf String.fromUTF8?
  constructor
  · intro h
    split at h
    · next htext =>
      split at htext
      · cases h
        cases htext
        rfl
      · cases htext
    · cases h
  · rintro rfl
    simp only [String.toUTF8_eq_toByteArray, dif_pos text.isValidUTF8]
    rfl

namespace Disk

/-- The text at a path, or what is said about it. -/
def readText (disk : Disk) (path : String) : Except String String :=
  match disk path with
  | .missing fault => .error fault.message
  | .directory => .error Fault.isDirectory.message
  | .device bytes => textOf bytes
  | .file _ bytes => textOf bytes
  | .unreadable _ _ fault => .error fault.message

end Disk

end Lexeme.Files
