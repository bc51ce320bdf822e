import Lexeme.Text.LetterCase

/-!
# Lower case

Full Unicode lower case. Each character has one lower-case form of its own, save two: a capital I
with a dot above becomes two characters, and a capital sigma becomes the final form when it ends a
word, that is, when a character with case stands before it and none after it.
-/

set_option autoImplicit false
set_option relaxedAutoImplicit false

namespace Lexeme.Text

namespace CaseRun

/-- Whether a code point is one of the run. -/
def covers (run : CaseRun) (code : Nat) : Bool :=
  run.first ≤ code && code ≤ run.last && (code - run.first) % run.step == 0

end CaseRun

/-- The lower-case form of a character that has one of its own; any other character is unchanged. -/
def lowerChar (c : Char) : Char :=
  match caseRuns.find? (·.covers c.toNat) with
  | some run => Char.ofNat (run.lower + (c.toNat - run.first))
  | none => c

/-- Whether the nearest character that is not passed over has case. -/
def nextHasCase (cs : List Char) : Bool :=
  match cs.dropWhile isCaseIgnorable with
  | c :: _ => isCased c
  | [] => false

/-- Lower case of a character between the text before it, given in reverse, and the text after. -/
def lowerBetween (before : List Char) (c : Char) (after : List Char) : List Char :=
  if c = 'Σ' then [if nextHasCase before && !nextHasCase after then 'ς' else 'σ']
  else if c = 'İ' then ['i', '\u0307']
  else [lowerChar c]

/-- Lower case of the rest of a text; the text before it is given in reverse. -/
def lowerFrom (before : List Char) : List Char → List Char
  | [] => []
  | c :: after => lowerBetween before c after ++ lowerFrom (c :: before) after

/-- The lower-case form of a text. -/
def lowercase (text : String) : String :=
  String.ofList (lowerFrom [] text.toList)

end Lexeme.Text
