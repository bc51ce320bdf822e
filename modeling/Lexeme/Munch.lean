import Lexeme.CharClass

/-!
# Tokens at the front of a text

One token at the front of a text, each function for a token of its kind. The longest run that fits
is taken, and what follows the token is returned with it. A run is read in one pass (`run_eq`).
-/

set_option autoImplicit false
set_option relaxedAutoImplicit false

namespace Lexeme.Munch

open Text (isDecimalDigit)

/-- The characters passed so far with the longest run after them that passes a test, and what
follows the run. -/
@[specialize] def run (keep : Char → Bool) (passed : String) : List Char → String × List Char
  | [] => (passed, [])
  | c :: cs => if keep c then run keep (passed.push c) cs else (passed, c :: cs)

theorem run_eq (keep : Char → Bool) (passed : String) (cs : List Char) :
    run keep passed cs = (passed ++ String.ofList (cs.takeWhile keep), cs.dropWhile keep) := by
  induction cs generalizing passed with
  | nil => simp [run]
  | cons c cs ih =>
    by_cases h : keep c <;> simp [run, h, ih, String.ext_iff]

/-- The longest run of decimal digits, of any script. -/
def number (cs : List Char) : Token × List Char :=
  (run isDecimalDigit "" cs).map (⟨.number, ·⟩) id

/-- The first character with the longest run of word characters after it. -/
def word : List Char → Token × List Char
  | [] => (⟨.word, ""⟩, [])
  | c :: cs => (run isWordContinue (String.singleton c) cs).map (⟨.word, ·⟩) id

/-- The text between the quote at the front and the next one, if there is a next one. -/
def string? (cs : List Char) : Option (Token × List Char) :=
  match run (· != '"') "" (cs.drop 1) with
  | (_, []) => none
  | (body, _ :: rest) => some (⟨.string, body⟩, rest)

/-- Two characters if they make an operator together, otherwise one. -/
def operator : List Char → Token × List Char
  | [] => (⟨.operator, ""⟩, [])
  | [c] => (⟨.operator, String.singleton c⟩, [])
  | c :: d :: cs =>
    let pair := (String.singleton c).push d
    if isPairOperator pair then (⟨.operator, pair⟩, cs)
    else (⟨.operator, String.singleton c⟩, d :: cs)

/-- One character. -/
def delimiter : List Char → Token × List Char
  | [] => (⟨.delimiter, ""⟩, [])
  | c :: cs => (⟨.delimiter, String.singleton c⟩, cs)

end Lexeme.Munch
