import Lexeme.Text.Lowercase

/-!
# File name extensions

File name extensions as settings give them: dots in front do not count, and neither does case.
-/

set_option autoImplicit false
set_option relaxedAutoImplicit false

namespace Lexeme.Text

/-- A text without the dots it starts with. -/
def dropDots (text : String) : String :=
  String.ofList (text.toList.dropWhile (· == '.'))

/-- An extension without leading dots, in lower case. -/
def plainExtension (text : String) : String :=
  lowercase (dropDots text)

/-- The extension that is required when a text is given for it; nothing left of it means none. -/
def requiredExtension? (text : String) : Option String :=
  let extension := plainExtension text
  if extension.isEmpty then none else some extension

end Lexeme.Text
