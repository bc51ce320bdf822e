import Lexeme.Proofs.Fractions
import Lexeme.Proofs.JsonForms

/-!
# Reports read back

A report that was written as JSON is read back as it was, on one line or over several lines, except
that the time taken may come back as another binary fraction
(`Pipeline.Output.Fits.exists_ofJsonText?_eq`). The report about a result therefore keeps what the
scan has found. The same holds for each part of a report by itself, as far as its numbers are such
as a counter holds (`Pipeline.scanData_roundTrips`).
-/

set_option autoImplicit false
set_option relaxedAutoImplicit false

namespace Lexeme.Pipeline

open Json (RoundTrips)

/-- A report that was written in either layout is read back, apart from the time taken. -/
theorem Output.Fits.exists_ofJsonText?_eq {output : Output} (hfits : output.Fits) {text : String}
    (htext : text = output.toJson.toLine ∨ text = output.toJsonText) :
    ∃ milliseconds, ofJsonText? text = some { output with milliseconds } := by
  have hreadable := hfits.readable (Json.Numeral.wellFormed_ofBinary64 output.milliseconds)
  obtain ⟨milliseconds, htime⟩ :=
    Json.Numeral.exists_toBinary64?_ofBinary64 output.milliseconds
  have hvalue : Json.Value.ofText? text = some output.toJson := by
    obtain rfl | rfl := htext
    · exact hreadable.ofText?_toLine
    · exact hreadable.ofText?_toLines
  refine ⟨milliseconds, ?_⟩
  rw [ofJsonText?, hvalue]
  exact hfits.ofJson?_toJson htime

/-- Scan data that was written as JSON is read back as it was. -/
theorem scanData_roundTrips :
    (∀ token : Token, RoundTrips Token.toJson Token.ofJson? token) ∧
    (∀ span : Span, span.Fits → RoundTrips Span.toJson Span.ofJson? span) ∧
    (∀ token : Spanned Token, token.span.Fits →
      RoundTrips Spanned.toJson Spanned.ofJson? token ∧
      RoundTrips Spanned.toRecord Spanned.ofRecord? token) ∧
    (∀ diagnostic : Diagnostic, diagnostic.span.Fits →
      RoundTrips Diagnostic.toJson Diagnostic.ofJson? diagnostic) ∧
    (∀ counts : TokenCounts, counts.Fits →
      RoundTrips TokenCounts.toJson TokenCounts.ofJson? counts) ∧
    (∀ metrics : ScanMetrics, metrics.Fits →
      RoundTrips ScanMetrics.toJson ScanMetrics.ofJson? metrics) ∧
    (∀ output : Output, output.Fits → ∀ text ∈ [output.toJson.toLine, output.toJsonText],
      ∃ milliseconds, Output.ofJsonText? text = some { output with milliseconds }) ∧
    ∀ (result : Result) (withMetrics : Bool), (result.report withMetrics).Fits →
      ∃ output, Output.ofJsonText? (result.report withMetrics).toJsonText = some output ∧
        output.tokens = result.scan.tokens ∧ output.diagnostics = result.scan.diagnostics ∧
        output.suppressed = result.scan.suppressed ∧ output.counts = result.counts ∧
        output.metrics = if withMetrics then some result.scan.metrics else none := by
  refine ⟨fun token ↦ token.keeps.roundTrips, fun span hfits ↦ hfits.keeps.roundTrips,
    fun token hfits ↦ ⟨(Spanned.keeps hfits).roundTrips, (Spanned.keeps_record hfits).roundTrips⟩,
    fun diagnostic hfits ↦ (Diagnostic.keeps hfits).roundTrips,
    fun counts hfits ↦ hfits.keeps.roundTrips, fun metrics hfits ↦ hfits.keeps.roundTrips,
    fun output hfits text htext ↦ ?_, fun result withMetrics hfits ↦ ?_⟩
  · exact hfits.exists_ofJsonText?_eq (by simpa using htext)
  · obtain ⟨milliseconds, hread⟩ := hfits.exists_ofJsonText?_eq (.inr rfl)
    exact ⟨_, hread, rfl, rfl, rfl, rfl, rfl⟩

/-- A report with uses of operators, and with a token that has quotes, controls and a character
outside the basic plane. -/
theorem scanData_roundTrips_escaped :
    let span : Span := ⟨0, 18446744073709551615⟩
    let token : Spanned Token := ⟨⟨.string, "\"\\\n\x00😀"⟩, span⟩
    let diagnostic : Diagnostic := ⟨.unterminatedString, span, "\"\t"⟩
    let counts : TokenCounts := { total := 1, strings := 1 }
    let metrics : ScanMetrics := { totalTokens := 1, operatorUses := .ofList [("+", 2)] }
    let output : Output :=
      ⟨"<stdin>", "strict", [token], [diagnostic], 3, counts, some metrics, .greatest⟩
    span.Fits ∧ counts.Fits ∧ metrics.Fits ∧ output.Fits ∧
    RoundTrips Span.toJson Span.ofJson? span ∧
    RoundTrips Spanned.toJson Spanned.ofJson? token ∧
    RoundTrips Diagnostic.toJson Diagnostic.ofJson? diagnostic ∧
    RoundTrips TokenCounts.toJson TokenCounts.ofJson? counts ∧
    RoundTrips ScanMetrics.toJson ScanMetrics.ofJson? metrics ∧
    ∃ milliseconds, Output.ofJsonText? output.toJsonText = some { output with milliseconds } := by
  intro span token diagnostic counts metrics output
  have hspan : span.Fits := ⟨by decide, by decide⟩
  have hcounts : counts.Fits := by constructor <;> decide
  have hmetrics : metrics.Fits := ⟨by decide +kernel, by decide +kernel⟩
  have houtput : output.Fits := by
    refine ⟨?_, ?_, by decide, hcounts, ?_⟩
    · simpa [output] using hspan
    · simpa [output] using hspan
    · simpa [output] using hmetrics
  obtain ⟨-, hspans, htokens, hdiagnostics, hcounters, hscans, houtputs, -⟩ := scanData_roundTrips
  exact ⟨hspan, hcounts, hmetrics, houtput, hspans span hspan, (htokens token hspan).1,
    hdiagnostics diagnostic hspan, hcounters counts hcounts, hscans metrics hmetrics,
    houtputs output houtput _ (by simp)⟩

end Lexeme.Pipeline
