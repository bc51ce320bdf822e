import Lexeme.Pipeline.Result
import Lexeme.Proofs.Dictionary
import Lexeme.Proofs.JsonText

/-!
# Scan data in JSON

Tokens, places, troubles, counters and whole reports are written as JSON objects, and each of them
is read back from its object field by field, as long as its numbers are such as a counter holds
(`Json.Keeps`). What is kept in this sense is read back from its JSON text as well, in either layout
(`Json.Keeps.roundTrips`). The time in a report is a binary fraction, which may be read as another
one; all else comes back as it was (`Pipeline.Output.Fits.ofJson?_toJson`).
-/

set_option autoImplicit false
set_option relaxedAutoImplicit false

namespace Lexeme

open Json (Value counterEnd)

namespace Json

/-- A value has a JSON form that can be written, and it is read back from this form. -/
structure Keeps {α : Type} (toJson : α → Value) (ofJson? : Value → Option α) (a : α) : Prop where
  readable : (toJson a).Readable
  ofJson?_toJson : ofJson? (toJson a) = some a

/-- A value is read back from its JSON text, which may be on one line or over several lines. -/
def RoundTrips {α : Type} (toJson : α → Value) (ofJson? : Value → Option α) (a : α) : Prop :=
  (Value.ofText? (toJson a).toLine).bind ofJson? = some a ∧
  (Value.ofText? (toJson a).toLines).bind ofJson? = some a

theorem Keeps.roundTrips {α : Type} {toJson : α → Value} {ofJson? : Value → Option α} {a : α}
    (hkeeps : Keeps toJson ofJson? a) : RoundTrips toJson ofJson? a := by
  rw [RoundTrips, hkeeps.readable.ofText?_toLine, hkeeps.readable.ofText?_toLines]
  exact ⟨hkeeps.ofJson?_toJson, hkeeps.ofJson?_toJson⟩

namespace Value

theorem readable_ofNat (n : Nat) : (ofNat n).Readable :=
  .number _ (Numeral.wellFormed_ofNat n)

theorem counter?_ofNat {n : Nat} (hn : n < counterEnd) : (ofNat n).counter? = some n :=
  Numeral.toNat?_ofNat hn

/-- What an array is written from is read back item by item. -/
theorem mapM_map {α : Type} {toJson : α → Value} {ofJson? : Value → Option α} {items : List α}
    (hitems : ∀ item ∈ items, Keeps toJson ofJson? item) :
    (items.map toJson).mapM ofJson? = some items := by
  induction items with
  | nil => rfl
  | cons item items ih =>
    have hitem := (hitems item List.mem_cons_self).ofJson?_toJson
    have hrest := ih fun item hmem ↦ hitems item (List.mem_cons_of_mem _ hmem)
    simp [hitem, hrest]

theorem readable_array_map {α : Type} {toJson : α → Value} {ofJson? : Value → Option α}
    {items : List α} (hitems : ∀ item ∈ items, Keeps toJson ofJson? item) :
    (Value.array (items.map toJson)).Readable := by
  refine .array _ fun value hvalue ↦ ?_
  obtain ⟨item, hitem, rfl⟩ := List.mem_map.1 hvalue
  exact (hitems item hitem).readable

end Value

end Json

/-! ### Tokens and places -/

theorem TokenKind.ofJson?_toJson (kind : TokenKind) :
    TokenKind.ofJson? kind.toJson = some kind := by
  cases kind <;> rfl

theorem Token.keeps (token : Token) : Json.Keeps Token.toJson Token.ofJson? token where
  readable := .object _ (by simp [TokenKind.toJson, Value.Readable.string])
  ofJson?_toJson := by
    have hfields : token.toJson.fields? ["kind", "text"] =
      some [some token.kind.toJson, some (.string token.text)] := rfl
    rw [Token.ofJson?, hfields]
    simp [TokenKind.ofJson?_toJson, Value.text?]

/-- Counters hold the offsets of the span. -/
structure Span.Fits (span : Span) : Prop where
  start : span.start < counterEnd
  stop : span.stop < counterEnd

theorem Span.Fits.keeps {span : Span} (hfits : span.Fits) :
    Json.Keeps Span.toJson Span.ofJson? span where
  readable := .object _ (by simp [Value.readable_ofNat])
  ofJson?_toJson := by
    have hfields : span.toJson.fields? ["start", "end"] =
      some [some (.ofNat span.start), some (.ofNat span.stop)] := rfl
    rw [Span.ofJson?, hfields]
    simp [Value.counter?_ofNat hfits.start, Value.counter?_ofNat hfits.stop]

theorem Spanned.keeps {token : Spanned Token} (hfits : token.span.Fits) :
    Json.Keeps Spanned.toJson Spanned.ofJson? token where
  readable := .object _ (by simp [token.value.keeps.readable, hfits.keeps.readable])
  ofJson?_toJson := by
    have hfields : token.toJson.fields? ["value", "span"] =
      some [some token.value.toJson, some token.span.toJson] := rfl
    rw [Spanned.ofJson?, hfields]
    simp [token.value.keeps.ofJson?_toJson, hfits.keeps.ofJson?_toJson]

theorem Spanned.keeps_record {token : Spanned Token} (hfits : token.span.Fits) :
    Json.Keeps Spanned.toRecord Spanned.ofRecord? token where
  readable := .object _ (by
    simp [TokenKind.toJson, Value.Readable.string, Value.readable_ofNat])
  ofJson?_toJson := by
    have hfields : token.toRecord.fields? ["kind", "text", "start", "end"] =
      some [some token.value.kind.toJson, some (.string token.value.text),
        some (.ofNat token.span.start), some (.ofNat token.span.stop)] := rfl
    rw [Spanned.ofRecord?, hfields]
    simp [TokenKind.ofJson?_toJson, Value.text?, Value.counter?_ofNat hfits.start,
      Value.counter?_ofNat hfits.stop]

/-! ### Troubles -/

theorem DiagnosticKind.ofJson?_toJson (kind : DiagnosticKind) :
    DiagnosticKind.ofJson? kind.toJson = some kind := by
  cases kind <;> rfl

theorem Diagnostic.keeps {diagnostic : Diagnostic} (hfits : diagnostic.span.Fits) :
    Json.Keeps Diagnostic.toJson Diagnostic.ofJson? diagnostic where
  readable := .object _ (by
    simp [DiagnosticKind.toJson, Value.Readable.string, hfits.keeps.readable])
  ofJson?_toJson := by
    have hfields : diagnostic.toJson.fields? ["kind", "span", "fragment"] =
      some [some diagnostic.kind.toJson, some diagnostic.span.toJson,
        some (.string diagnostic.fragment)] := rfl
    rw [Diagnostic.ofJson?, hfields]
    simp [DiagnosticKind.ofJson?_toJson, Value.text?, hfits.keeps.ofJson?_toJson]

/-! ### Counters -/

/-- Counters hold the numbers of tokens. -/
structure TokenCounts.Fits (counts : TokenCounts) : Prop where
  total : counts.total < counterEnd
  numbers : counts.numbers < counterEnd
  words : counts.words < counterEnd
  strings : counts.strings < counterEnd
  operators : counts.operators < counterEnd
  delimiters : counts.delimiters < counterEnd

theorem TokenCounts.Fits.keeps {counts : TokenCounts} (hfits : counts.Fits) :
    Json.Keeps TokenCounts.toJson TokenCounts.ofJson? counts where
  readable := .object _ (by simp [Value.readable_ofNat])
  ofJson?_toJson := by
    have hfields : counts.toJson.fields?
        ["total", "numbers", "words", "strings", "operators", "delimiters"] =
      some [some (.ofNat counts.total), some (.ofNat counts.numbers),
        some (.ofNat counts.words), some (.ofNat counts.strings),
        some (.ofNat counts.operators), some (.ofNat counts.delimiters)] := rfl
    rw [TokenCounts.ofJson?, hfields]
    simp [Value.counter?_ofNat, hfits.total, hfits.numbers, hfits.words, hfits.strings,
      hfits.operators, hfits.delimiters]

/-- Counters hold all numbers of the metrics. -/
structure ScanMetrics.Fits (metrics : ScanMetrics) : Prop where
  counters : ∀ n ∈ metrics.counters, n < counterEnd
  uses : ∀ entry ∈ metrics.operatorUses.entries, entry.2 < counterEnd

theorem mapM_map_ofNat {entries : List (String × Nat)}
    (hfits : ∀ entry ∈ entries, entry.2 < counterEnd) :
    (entries.map fun (operator, count) ↦ (operator, Value.ofNat count)).mapM
      (fun (operator, count) ↦ count.counter?.map (operator, ·)) = some entries := by
  induction entries with
  | nil => rfl
  | cons entry entries ih =>
    have hentry := Value.counter?_ofNat (hfits entry List.mem_cons_self)
    have hrest := ih fun entry hmem ↦ hfits entry (List.mem_cons_of_mem _ hmem)
    simp [hentry, hrest]

theorem usesOfJson?_usesToJson {uses : Text.Dictionary Nat}
    (hfits : ∀ entry ∈ uses.entries, entry.2 < counterEnd) :
    usesOfJson? (usesToJson uses) = some uses := by
  rw [usesOfJson?, usesToJson, Value.members?]
  simp [mapM_map_ofNat hfits, Text.Dictionary.ofList_entries]

theorem readable_usesToJson (uses : Text.Dictionary Nat) : (usesToJson uses).Readable := by
  refine .object _ fun member hmember ↦ ?_
  obtain ⟨entry, -, rfl⟩ := List.mem_map.1 hmember
  exact Value.readable_ofNat entry.2

namespace ScanMetrics

theorem fields?_toJson (metrics : ScanMetrics) :
    metrics.toJson.fields? (counterNames ++ [usesName]) =
      some (metrics.counters.map (fun n ↦ some (Value.ofNat n)) ++
        [if metrics.operatorUses.isEmpty then none
          else some (usesToJson metrics.operatorUses)]) := by
  rw [toJson]
  cases metrics.operatorUses.isEmpty <;> rfl

theorem mapM_counters {metrics : ScanMetrics} (hfits : metrics.Fits) :
    (metrics.counters.map fun n ↦ some (Value.ofNat n)).mapM (·.bind Value.counter?) =
      some metrics.counters := by
  have hcounters := hfits.counters
  generalize metrics.counters = counters at hcounters
  induction counters with
  | nil => rfl
  | cons counter counters ih =>
    have hcounter := Value.counter?_ofNat (hcounters counter List.mem_cons_self)
    have hrest := ih fun counter hmem ↦ hcounters counter (List.mem_cons_of_mem _ hmem)
    rw [List.map_cons, List.mapM_cons, hrest]
    simp [hcounter]

theorem readable (metrics : ScanMetrics) : metrics.toJson.Readable := by
  refine .object _ fun member hmember ↦ ?_
  rcases List.mem_append.1 hmember with hcounter | huses
  · obtain ⟨n, -, hn⟩ := List.mem_map.1 (List.of_mem_zip hcounter).2
    exact hn ▸ Value.readable_ofNat n
  · split at huses
    · cases huses
    · obtain rfl := List.mem_singleton.1 huses
      exact readable_usesToJson metrics.operatorUses

/-- The uses are left out when there are none, and nothing but this is read from their absence. -/
theorem ofJson?_toJson {metrics : ScanMetrics} (hfits : metrics.Fits) :
    ofJson? metrics.toJson = some metrics := by
  have htake (uses : Option Value) :
      (metrics.counters.map (fun n ↦ some (Value.ofNat n)) ++ [uses]).take 13 =
        metrics.counters.map fun n ↦ some (Value.ofNat n) := rfl
  have hdrop (uses : Option Value) :
      ((metrics.counters.map (fun n ↦ some (Value.ofNat n)) ++ [uses]).drop 13).head? =
        some uses := rfl
  rw [ofJson?, fields?_toJson]
  simp only [Option.bind_eq_bind, Option.bind_some, htake, hdrop, mapM_counters hfits]
  obtain hempty | hnonempty := Bool.eq_false_or_eq_true metrics.operatorUses.isEmpty
  · rw [if_pos hempty]
    simp only [counters, ← Text.Dictionary.eq_empty_of_isEmpty hempty]
  · rw [if_neg (Bool.not_eq_true _ ▸ hnonempty)]
    simp only [counters, usesOfJson?_usesToJson hfits.uses, Option.bind_some]

theorem Fits.keeps {metrics : ScanMetrics} (hfits : metrics.Fits) :
    Json.Keeps ScanMetrics.toJson ScanMetrics.ofJson? metrics where
  readable := metrics.readable
  ofJson?_toJson := ofJson?_toJson hfits

end ScanMetrics

/-! ### Reports -/

namespace Pipeline.Output

/-- Counters hold all numbers of the report. -/
structure Fits (output : Output) : Prop where
  tokens : ∀ token ∈ output.tokens, token.span.Fits
  diagnostics : ∀ diagnostic ∈ output.diagnostics, diagnostic.span.Fits
  suppressed : output.suppressed < counterEnd
  counts : output.counts.Fits
  metrics : ∀ metrics ∈ output.metrics, metrics.Fits

theorem fields?_toJson (output : Output) :
    output.toJson.fields? ["source", "mode", "tokens", "diagnostics", "suppressed_diagnostics",
      "counts", "metrics", "duration_ms"] =
      some [some (.string output.source), some (.string output.mode),
        some (.array (output.tokens.map Spanned.toRecord)),
        some (.array (output.diagnostics.map Diagnostic.toJson)),
        some (.ofNat output.suppressed), some output.counts.toJson,
        output.metrics.map ScanMetrics.toJson,
        some (.number (.ofBinary64 output.milliseconds))] := by
  rw [toJson]
  cases output.metrics <;> rfl

variable {output : Output}

theorem Fits.keeps_tokens (hfits : output.Fits) :
    ∀ token ∈ output.tokens, Json.Keeps Spanned.toRecord Spanned.ofRecord? token :=
  fun token htoken ↦ Spanned.keeps_record (hfits.tokens token htoken)

theorem Fits.keeps_diagnostics (hfits : output.Fits) :
    ∀ diagnostic ∈ output.diagnostics,
      Json.Keeps Diagnostic.toJson Diagnostic.ofJson? diagnostic :=
  fun diagnostic hdiagnostic ↦ Diagnostic.keeps (hfits.diagnostics diagnostic hdiagnostic)

/-- The report can be written if the time taken can. -/
theorem Fits.readable (hfits : output.Fits)
    (htime : (Json.Numeral.ofBinary64 output.milliseconds).WellFormed) :
    output.toJson.Readable := by
  have htokens := Value.readable_array_map hfits.keeps_tokens
  have hdiagnostics := Value.readable_array_map hfits.keeps_diagnostics
  have hcounts := hfits.counts.keeps.readable
  have hmilliseconds := Value.Readable.number _ htime
  refine .object _ ?_
  cases output.metrics with
  | none =>
    simp [Value.Readable.string, htokens, hdiagnostics, Value.readable_ofNat, hcounts,
      hmilliseconds]
  | some metrics =>
    simp [Value.Readable.string, htokens, hdiagnostics, Value.readable_ofNat, hcounts,
      metrics.readable, hmilliseconds]

/-- The report is read back from its JSON form, with whatever time its time is read as. -/
theorem Fits.ofJson?_toJson (hfits : output.Fits) {milliseconds : Decimal.Binary64}
    (htime : (Json.Numeral.ofBinary64 output.milliseconds).toBinary64? = some milliseconds) :
    ofJson? output.toJson = some { output with milliseconds } := by
  have htokens := Value.mapM_map hfits.keeps_tokens
  have hdiagnostics := Value.mapM_map hfits.keeps_diagnostics
  have hsuppressed := Value.counter?_ofNat hfits.suppressed
  have hcounts := hfits.counts.keeps.ofJson?_toJson
  have hread : (Value.number (.ofBinary64 output.milliseconds)).fraction? = some milliseconds :=
    htime
  rw [ofJson?, fields?_toJson]
  cases hmetrics : output.metrics with
  | none =>
    dsimp only [Option.bind_eq_bind, Option.bind_some, Option.map_none, Value.text?, Value.items?]
    rw [htokens, Option.bind_some, hdiagnostics, Option.bind_some, hsuppressed, Option.bind_some,
      hcounts, Option.bind_some, hread, Option.bind_some]
  | some metrics =>
    have hkeeps := (hfits.metrics metrics hmetrics).keeps.ofJson?_toJson
    have hnull : metrics.toJson.isNull = false := rfl
    dsimp only [Option.bind_eq_bind, Option.bind_some, Option.map_some, Value.text?, Value.items?]
    rw [hnull, if_neg Bool.false_ne_true, hkeeps, Option.map_some, Option.bind_some, htokens,
      Option.bind_some, hdiagnostics, Option.bind_some, hsuppressed, Option.bind_some, hcounts,
      Option.bind_some, hread, Option.bind_some]

end Pipeline.Output

end Lexeme
