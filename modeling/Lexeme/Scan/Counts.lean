import Lexeme.Token

/-!
# Counts of tokens

How many tokens of each kind a list holds.
-/

set_option autoImplicit false
set_option relaxedAutoImplicit false

namespace Lexeme

/-- Numbers of tokens, in all and by kind. -/
structure TokenCounts where
  total : Nat := 0
  numbers : Nat := 0
  words : Nat := 0
  strings : Nat := 0
  operators : Nat := 0
  delimiters : Nat := 0
  deriving Repr, DecidableEq

namespace TokenCounts

/-- Counts one more token of a kind. -/
def add (counts : TokenCounts) (kind : TokenKind) : TokenCounts :=
  let counts := { counts with total := counts.total + 1 }
  match kind with
  | .number => { counts with numbers := counts.numbers + 1 }
  | .word => { counts with words := counts.words + 1 }
  | .string => { counts with strings := counts.strings + 1 }
  | .operator => { counts with operators := counts.operators + 1 }
  | .delimiter => { counts with delimiters := counts.delimiters + 1 }

/-- The counts of a list of tokens. -/
def ofTokens (tokens : List Token) : TokenCounts :=
  tokens.foldl (fun counts token ↦ counts.add token.kind) {}

/-- The number of tokens of a kind. -/
def get (counts : TokenCounts) : TokenKind → Nat
  | .number => counts.numbers
  | .word => counts.words
  | .string => counts.strings
  | .operator => counts.operators
  | .delimiter => counts.delimiters

/-- Whether there is any token. -/
def hasContent (counts : TokenCounts) : Bool :=
  0 < counts.total

end TokenCounts

end Lexeme
