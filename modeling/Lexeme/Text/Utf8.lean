/-!
# Byte offsets

Byte offsets in UTF-8 text. Text is a list of characters, and an offset is the number of bytes that
the characters before it take; cutting is possible only between two characters.
-/

set_option autoImplicit false
set_option relaxedAutoImplicit false

namespace Lexeme.Text

/-- Number of bytes a list of characters takes in UTF-8. -/
def byteWidth (cs : List Char) : Nat :=
  cs.foldl (fun width c ↦ width + c.utf8Size) 0

theorem foldl_utf8Size (start : Nat) (cs : List Char) :
    cs.foldl (fun width c ↦ width + c.utf8Size) start = start + byteWidth cs := by
  induction cs generalizing start with
  | nil => rfl
  | cons c cs ih =>
    rw [byteWidth, List.foldl_cons, List.foldl_cons, ih, ih (0 + c.utf8Size)]
    omega

@[simp] theorem byteWidth_nil : byteWidth [] = 0 := rfl

@[simp] theorem byteWidth_cons (c : Char) (cs : List Char) :
    byteWidth (c :: cs) = c.utf8Size + byteWidth cs := by
  rw [byteWidth, List.foldl_cons, foldl_utf8Size]
  omega

@[simp] theorem byteWidth_append (cs ds : List Char) :
    byteWidth (cs ++ ds) = byteWidth cs + byteWidth ds := by
  rw [byteWidth, List.foldl_append, foldl_utf8Size, ← byteWidth]

@[simp] theorem byteWidth_toList (text : String) : byteWidth text.toList = text.utf8ByteSize := by
  induction text using String.push_induction with
  | empty => rfl
  | push text c ih => simp [ih]

/-- Cuts a text at a byte offset; the characters passed so far are given in reverse. -/
def cutFrom (passed : List Char) : Nat → List Char → Option (List Char × List Char)
  | 0, cs => some (passed.reverse, cs)
  | _ + 1, [] => none
  | offset + 1, c :: cs =>
    if c.utf8Size ≤ offset + 1 then cutFrom (c :: passed) (offset + 1 - c.utf8Size) cs else none

/-- The text before and after a byte offset, if the offset lies between two characters. -/
def cutAt? (offset : Nat) (cs : List Char) : Option (List Char × List Char) :=
  cutFrom [] offset cs

/-- The text from byte `first` up to byte `last`, if both lie between characters and in order. -/
def slice? (first last : Nat) (cs : List Char) : Option (List Char) :=
  if first ≤ last then do
    let (_, rest) ← cutAt? first cs
    let (middle, _) ← cutAt? (last - first) rest
    pure middle
  else
    none

/-- The text in front of the last place between two characters that lies at an offset or before it.
The search goes back from the offset byte by byte. -/
def frontUpTo (cs : List Char) : Nat → List Char
  | 0 => []
  | offset + 1 =>
    match cutAt? (offset + 1) cs with
    | some (front, _) => front
    | none => frontUpTo cs offset

end Lexeme.Text
