import Lexeme.Json.Value
import Lexeme.Scan.Counts
import Lexeme.Scan.Diagnostic
import Lexeme.Scan.Metrics

/-!
# JSON forms of scans

JSON forms of tokens, places, troubles and counters. Each type is written as an object with its
fields in a fixed order, and read back from it.
-/

set_option autoImplicit false
set_option relaxedAutoImplicit false

namespace Lexeme

open Json (Value)

namespace TokenKind

def toJson (kind : TokenKind) : Value :=
  .string kind.name

def ofJson? (value : Value) : Option TokenKind := do
  ofName? (← value.choice?)

end TokenKind

namespace Token

def toJson (token : Token) : Value :=
  .object [("kind", token.kind.toJson), ("text", .string token.text)]

def ofJson? (value : Value) : Option Token := do
  let [kind, text] ← value.fields? ["kind", "text"] | none
  some ⟨← TokenKind.ofJson? (← kind), ← (← text).text?⟩

end Token

namespace Span

def toJson (span : Span) : Value :=
  .object [("start", .ofNat span.start), ("end", .ofNat span.stop)]

def ofJson? (value : Value) : Option Span := do
  let [start, stop] ← value.fields? ["start", "end"] | none
  some ⟨← (← start).counter?, ← (← stop).counter?⟩

end Span

namespace Spanned

def toJson (token : Spanned Token) : Value :=
  .object [("value", token.value.toJson), ("span", token.span.toJson)]

def ofJson? (value : Value) : Option (Spanned Token) := do
  let [token, span] ← value.fields? ["value", "span"] | none
  some ⟨← Token.ofJson? (← token), ← Span.ofJson? (← span)⟩

/-- The flat form of a token with its place, as reports write it. -/
def toRecord (token : Spanned Token) : Value :=
  .object [("kind", token.value.kind.toJson), ("text", .string token.value.text),
    ("start", .ofNat token.span.start), ("end", .ofNat token.span.stop)]

def ofRecord? (value : Value) : Option (Spanned Token) := do
  let [kind, text, start, stop] ← value.fields? ["kind", "text", "start", "end"] | none
  some ⟨⟨← TokenKind.ofJson? (← kind), ← (← text).text?⟩, ← (← start).counter?,
    ← (← stop).counter?⟩

end Spanned

namespace DiagnosticKind

def toJson (kind : DiagnosticKind) : Value :=
  .string kind.name

def ofJson? (value : Value) : Option DiagnosticKind := do
  ofName? (← value.choice?)

end DiagnosticKind

namespace Diagnostic

def toJson (diagnostic : Diagnostic) : Value :=
  .object [("kind", diagnostic.kind.toJson), ("span", diagnostic.span.toJson),
    ("fragment", .string diagnostic.fragment)]

def ofJson? (value : Value) : Option Diagnostic := do
  let [kind, span, fragment] ← value.fields? ["kind", "span", "fragment"] | none
  some ⟨← DiagnosticKind.ofJson? (← kind), ← Span.ofJson? (← span), ← (← fragment).text?⟩

end Diagnostic

namespace TokenCounts

def toJson (counts : TokenCounts) : Value :=
  .object [("total", .ofNat counts.total), ("numbers", .ofNat counts.numbers),
    ("words", .ofNat counts.words), ("strings", .ofNat counts.strings),
    ("operators", .ofNat counts.operators), ("delimiters", .ofNat counts.delimiters)]

def ofJson? (value : Value) : Option TokenCounts := do
  let [total, numbers, words, strings, operators, delimiters] ← value.fields?
    ["total", "numbers", "words", "strings", "operators", "delimiters"] | none
  some ⟨← (← total).counter?, ← (← numbers).counter?, ← (← words).counter?,
    ← (← strings).counter?, ← (← operators).counter?, ← (← delimiters).counter?⟩

end TokenCounts

/-- Counters under texts, as an object. -/
def usesToJson (uses : Text.Dictionary Nat) : Value :=
  .object (uses.entries.map fun (operator, count) ↦ (operator, .ofNat count))

/-- Counters under texts; of two counters under one text the last one holds. -/
def usesOfJson? (value : Value) : Option (Text.Dictionary Nat) := do
  let entries ← (← value.members?).mapM fun (operator, count) ↦
    count.counter?.map (operator, ·)
  some (.ofList entries)

namespace ScanMetrics

/-- Names of the counters in written data, in order. -/
def counterNames : List String := [
  "total_tokens", "number_tokens", "word_tokens", "string_tokens", "operator_tokens",
  "delimiter_tokens", "two_char_operators", "max_string_length", "max_word_length",
  "whitespace_skipped", "characters_dropped", "unterminated_strings", "skipped_bytes"]

/-- The counters in the order of their names. -/
def counters (metrics : ScanMetrics) : List Nat := [
  metrics.totalTokens, metrics.numberTokens, metrics.wordTokens, metrics.stringTokens,
  metrics.operatorTokens, metrics.delimiterTokens, metrics.pairOperators, metrics.longestString,
  metrics.longestWord, metrics.separatorsSkipped, metrics.charactersDropped,
  metrics.unterminatedStrings, metrics.skippedBytes]

/-- Name of the uses of operators in written data. -/
def usesName : String := "operator_usage_patterns"

/-- The counters by their names; the uses of operators are left out when there are none. -/
def toJson (metrics : ScanMetrics) : Value :=
  .object (counterNames.zip (metrics.counters.map Value.ofNat) ++
    if metrics.operatorUses.isEmpty then [] else [(usesName, usesToJson metrics.operatorUses)])

def ofJson? (value : Value) : Option ScanMetrics := do
  let fields ← value.fields? (counterNames ++ [usesName])
  let [total, number, word, string, operator, delimiter, pairs, longestString, longestWord,
    separators, dropped, unterminated, skipped] ←
    (fields.take 13).mapM (· >>= Value.counter?) | none
  let uses ← match (fields.drop 13).head? with
    | some (some uses) => usesOfJson? uses
    | _ => some .empty
  some ⟨total, number, word, string, operator, delimiter, pairs, longestString, longestWord,
    separators, dropped, unterminated, skipped, uses⟩

end ScanMetrics

end Lexeme
