import Lexeme.Proofs.DiagnosticBuffer
import Lexeme.Proofs.ScanMetrics
import Lexeme.Proofs.Tiling

/-!
# The output of a scan

The four parts of the output, each read off the pieces of the source: the tokens among them, the
first troubles up to the limit of the build, the number of the other troubles, and the counters.
Where the pieces start matters only to the spans (`Piece.spannedToken?_shift`,
`Diagnostic.ofPiece?_shift`), so that the tokens of a text are a function of its characters
(`tokensIn`), and the piece at the front of a text adds its token to those of the rest
(`tokensIn_piece`).
-/

set_option autoImplicit false
set_option relaxedAutoImplicit false

namespace Lexeme

section Output

variable (settings : ScanSettings) (source : String)

theorem tokens_scan :
    (scan settings source).tokens = (Piece.ofSource source).filterMap Piece.spannedToken? := by
  rw [scan_eq_ofPieces, ScanOutput.ofPieces]

theorem plainTokens_scan :
    (scan settings source).plainTokens = Piece.tokensOf (Piece.ofSource source) := by
  rw [ScanOutput.plainTokens, tokens_scan, Piece.tokensOf]

theorem wellFormed_of_mem_plainTokens :
    ∀ token ∈ (scan settings source).plainTokens, token.WellFormed := by
  rw [plainTokens_scan]
  exact Piece.wellFormed_of_mem_tokensOf Piece.wellFormed_of_mem_located

/-- The settings have no say in what the tokens are. -/
theorem plainTokens_scan_eq_tokenize : (scan settings source).plainTokens = tokenize source := by
  rw [tokenize, plainTokens_scan, plainTokens_scan]

theorem diagnostics_scan :
    (scan settings source).diagnostics =
      (Diagnostic.ofSource source).take Limits.current.maxDiagnostics := by
  rw [scan_eq_ofPieces, Diagnostic.ofSource_eq]
  exact (DiagnosticBuffer.holds_foldl_pushPiece _).stored

theorem suppressed_scan :
    (scan settings source).suppressed =
      (Diagnostic.ofSource source).length - Limits.current.maxDiagnostics := by
  rw [scan_eq_ofPieces, Diagnostic.ofSource_eq]
  exact (DiagnosticBuffer.holds_foldl_pushPiece _).suppressed

/-- Kept or not, the troubles of a scan are those of its source. -/
theorem diagnosticCount_scan :
    (scan settings source).diagnosticCount = (Diagnostic.ofSource source).length := by
  rw [ScanOutput.diagnosticCount, diagnostics_scan, suppressed_scan, List.length_take]
  omega

theorem metrics_scan :
    (scan settings source).metrics = ScanMetrics.tally settings (Piece.ofSource source) := by
  rw [scan_eq_ofPieces, ← ScanMetrics.ofPieces_eq_tally]
  rfl

end Output

/-! ### Shifted pieces -/

/-- The trouble as many bytes further on. -/
def Diagnostic.shift (bytes : Nat) (diagnostic : Diagnostic) : Diagnostic :=
  { diagnostic with span := diagnostic.span.shift bytes }

theorem Piece.spannedToken?_shift (bytes : Nat) (piece : Spanned Piece) :
    spannedToken? (piece.shift bytes) = (spannedToken? piece).map (Spanned.shift bytes) := by
  obtain ⟨value, span⟩ := piece
  cases value <;> rfl

theorem Diagnostic.ofPiece?_shift (bytes : Nat) (piece : Spanned Piece) :
    ofPiece? (piece.shift bytes) = (ofPiece? piece).map (Diagnostic.shift bytes) := by
  obtain ⟨value, span⟩ := piece
  cases value <;> rfl

theorem Piece.filterMap_spannedToken?_shift (bytes : Nat) (pieces : List (Spanned Piece)) :
    (pieces.map (Spanned.shift bytes)).filterMap spannedToken? =
      (pieces.filterMap spannedToken?).map (Spanned.shift bytes) := by
  rw [List.filterMap_map, List.map_filterMap]
  exact congrArg (List.filterMap · pieces) (funext (spannedToken?_shift bytes))

theorem Diagnostic.filterMap_ofPiece?_shift (bytes : Nat) (pieces : List (Spanned Piece)) :
    (pieces.map (Spanned.shift bytes)).filterMap ofPiece? =
      (pieces.filterMap ofPiece?).map (Diagnostic.shift bytes) := by
  rw [List.filterMap_map, List.map_filterMap]
  exact congrArg (List.filterMap · pieces) (funext (ofPiece?_shift bytes))

theorem Piece.tokensOf_map_shift (bytes : Nat) (pieces : List (Spanned Piece)) :
    tokensOf (pieces.map (Spanned.shift bytes)) = tokensOf pieces := by
  rw [tokensOf, filterMap_spannedToken?_shift, List.map_map]
  rfl

/-- A text further on in a source holds the tokens of a scan of it, further on. -/
theorem tokens_located (settings : ScanSettings) (offset : Nat) (cs : List Char) :
    (Piece.located offset cs).filterMap Piece.spannedToken? =
      (scan settings (String.ofList cs)).tokens.map (Spanned.shift offset) := by
  have hplace := Piece.located_add 0 offset cs
  rw [Nat.zero_add] at hplace
  rw [hplace, Piece.filterMap_spannedToken?_shift, tokens_scan, Piece.ofSource,
    String.toList_ofList]

/-- A text further on in a source holds the troubles of that text, further on. -/
theorem troubles_located (offset : Nat) (cs : List Char) :
    (Piece.located offset cs).filterMap Diagnostic.ofPiece? =
      (Diagnostic.ofSource (String.ofList cs)).map (Diagnostic.shift offset) := by
  have hplace := Piece.located_add 0 offset cs
  rw [Nat.zero_add] at hplace
  rw [hplace, Diagnostic.filterMap_ofPiece?_shift, Diagnostic.ofSource_eq, Piece.ofSource,
    String.toList_ofList]

/-! ### The tokens of a text -/

/-- The tokens that a scan finds in a text. -/
def tokensIn (cs : List Char) : List Token :=
  Piece.tokensOf (Piece.located 0 cs)

theorem tokenize_eq_tokensIn (source : String) : tokenize source = tokensIn source.toList :=
  plainTokens_scan .builtIn source

@[simp] theorem tokensIn_nil : tokensIn [] = [] := by
  rw [tokensIn, Piece.located]
  rfl

/-- The token that a piece is, if it is one. -/
def Piece.token? : Piece → Option Token
  | token t => some t
  | _ => none

/-- The piece at the front of a text adds its token, if it is one, to those of the rest. -/
theorem tokensIn_piece (piece : Piece) (hpiece : piece.WellFormed) {rest : List Char}
    (hends : piece.EndsBefore rest) :
    tokensIn (piece.text ++ rest) = piece.token?.toList ++ tokensIn rest := by
  rw [tokensIn, Piece.located_piece piece hpiece hends, Piece.located_add, tokensIn]
  have hrest := Piece.tokensOf_map_shift piece.width (Piece.located 0 rest)
  rw [← List.singleton_append, Piece.tokensOf_append, hrest]
  cases piece <;> rfl

theorem tokensIn_gap {c : Char} (hgap : IsGap c) (cs : List Char) :
    tokensIn (c :: cs) = tokensIn cs := by
  rcases hgap with hgap | hgap
  · exact tokensIn_piece (.separator c) hgap trivial
  · exact tokensIn_piece (.stray c) hgap trivial

/-- Characters between tokens add nothing to the tokens. -/
theorem tokensIn_gaps {gap : List Char} (hgap : ∀ c ∈ gap, IsGap c) (cs : List Char) :
    tokensIn (gap ++ cs) = tokensIn cs := by
  induction gap with
  | nil => rfl
  | cons c gap ih =>
    obtain ⟨hc, hgap⟩ := List.forall_mem_cons.mp hgap
    rw [List.cons_append, tokensIn_gap hc, ih hgap]

theorem tokensIn_token {t : Token} (ht : t.WellFormed) {rest : List Char}
    (hends : t.EndsBefore rest.head?) : tokensIn (t.lexeme ++ rest) = t :: tokensIn rest :=
  tokensIn_piece (.token t) ht hends

end Lexeme
