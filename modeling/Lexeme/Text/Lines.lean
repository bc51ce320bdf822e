/-!
# Lines

Lines of a text. A line ends at a line feed, which may follow a carriage return; text after the
last line feed is a line of its own, and nothing after it is none.
-/

set_option autoImplicit false
set_option relaxedAutoImplicit false

namespace Lexeme.Text

/-- A line given in reverse, without the carriage return before its line feed. -/
def endLine : List Char → List Char
  | '\r' :: line => line.reverse
  | line => line.reverse

/-- The lines of a text; the line in progress is given in reverse, finished ones last first. -/
def linesFrom (current : List Char) (finished : List (List Char)) : List Char → List (List Char)
  | [] => (if current.isEmpty then finished else current.reverse :: finished).reverse
  | '\n' :: cs => linesFrom [] (endLine current :: finished) cs
  | c :: cs => linesFrom (c :: current) finished cs

/-- The lines of a text without their line ends. -/
def lines (text : String) : List String :=
  (linesFrom [] [] text.toList).map String.ofList

/-- Number of lines of a text: its line feeds, and one more if text follows the last of them. -/
def lineCount (text : String) : Nat :=
  let feeds := text.foldl (fun count c ↦ if c = '\n' then count + 1 else count) 0
  if text.isEmpty || text.endsWith '\n' then feeds else feeds + 1

end Lexeme.Text
