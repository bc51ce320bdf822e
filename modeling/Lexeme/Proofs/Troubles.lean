import Lexeme.Proofs.Places

/-!
# The troubles of a source

Which troubles a source has can be read off its characters and the spans of its tokens: each skipped
character outside every class is one, and the string that is never closed is the last
(`troublesBetween`). A scan finds exactly these (`Diagnostic.map_spanned_ofSource`), keeps the first
of them, and keeps of each the start of the text that it covers (`diagnostics_scan_eq_take`).
-/

set_option autoImplicit false
set_option relaxedAutoImplicit false

namespace Lexeme

/-- The kind of a trouble in its place. -/
def Diagnostic.spanned (diagnostic : Diagnostic) : Spanned DiagnosticKind :=
  ⟨diagnostic.kind, diagnostic.span⟩

/-- The troubles of a source with the given tokens: the characters outside every class that are part
of no token, in order, and after them the string that is never closed. -/
def troublesBetween (source : String) (tokens : List (Spanned Token)) :
    List (Spanned DiagnosticKind) :=
  (skippedChars .other source tokens).map (fun char ↦ ⟨.unrecognizedCharacter, char.span⟩) ++
    if Text.unclosed source.toList = [] then []
    else [⟨.unterminatedString, unclosedFrom source, source.utf8ByteSize⟩]

/-! ### The troubles of a scan -/

/-- The trouble that a character outside every class is. -/
def Diagnostic.ofStray (char : Spanned Char) : Diagnostic :=
  make .unrecognizedCharacter char.span [char.value]

/-- Where no string is open, the troubles are the stray characters. -/
theorem Diagnostic.filterMap_ofPiece?_closed {pieces : List (Spanned Piece)}
    (hclosed : ∀ piece ∈ pieces, piece.value.isOpenString = false) :
    pieces.filterMap ofPiece? = (pieces.filterMap Piece.strayChar?).map ofStray := by
  rw [List.map_filterMap]
  refine List.filterMap_congr fun piece hpiece ↦ ?_
  have hpiece := hclosed piece hpiece
  obtain ⟨value, span⟩ := piece
  cases value with
  | openString cs => cases hpiece
  | _ => rfl

/-- The troubles of a source are its stray characters and after them its unclosed string. -/
theorem Diagnostic.ofSource_eq_append (settings : ScanSettings) (source : String) :
    ofSource source =
      (skippedChars .other source (scan settings source).tokens).map ofStray ++
        if Text.unclosed source.toList = [] then []
        else [make .unterminatedString ⟨unclosedFrom source, source.utf8ByteSize⟩
          (Text.unclosed source.toList)] := by
  rw [ofSource_eq, skippedChars_other]
  rcases Piece.ofSource_closed_or_open source with
    ⟨hnil, hclosed⟩ | ⟨init, body, hsource, hunclosed, -, hclosed⟩
  · rw [if_pos hnil, List.append_nil, filterMap_ofPiece?_closed hclosed]
  · rw [if_neg (hunclosed ▸ List.cons_ne_nil _ _), hsource, List.filterMap_append,
      List.filterMap_append, filterMap_ofPiece?_closed hclosed, hunclosed]
    simp [ofPiece?, Piece.strayChar?]

/-- A scan finds the troubles that the source has between its tokens. -/
theorem Diagnostic.map_spanned_ofSource (settings : ScanSettings) (source : String) :
    (ofSource source).map spanned = troublesBetween source (scan settings source).tokens := by
  rw [ofSource_eq_append settings, troublesBetween, List.map_append, List.map_map]
  split_ifs <;> rfl

/-- The trouble of a piece stands where the piece does, and keeps the start of its text. No token is
a trouble. -/
theorem Diagnostic.of_ofPiece?_eq_some {piece : Spanned Piece} {diagnostic : Diagnostic}
    (htrouble : ofPiece? piece = some diagnostic) :
    Piece.spannedToken? piece = none ∧ diagnostic.span = piece.span ∧
      diagnostic.fragment.toList = piece.value.text.take Limits.current.maxFragmentLength := by
  obtain ⟨value, span⟩ := piece
  cases value with
  | token t => cases htrouble
  | separator c => cases htrouble
  | stray c | openString cs =>
    cases htrouble
    exact ⟨rfl, rfl, String.toList_ofList⟩

theorem Diagnostic.exists_piece_of_mem {source : String} {diagnostic : Diagnostic}
    (hmem : diagnostic ∈ ofSource source) :
    ∃ piece ∈ Piece.ofSource source, ofPiece? piece = some diagnostic := by
  rw [ofSource_eq] at hmem
  exact List.mem_filterMap.mp hmem

/-- A piece of a source is the slice of the source at its place. -/
theorem Piece.slice?_of_mem_ofSource {source : String} {piece : Spanned Piece}
    (hmem : piece ∈ ofSource source) :
    piece.span.slice? source = some (String.ofList piece.value.text) := by
  obtain ⟨front, back, hsource, hspan⟩ := mem_ofSource source hmem
  rw [hspan, Span.slice?, hsource, Text.slice?_append, Option.map_some]

/-- Troubles take at least one byte each and follow one another. -/
theorem Diagnostic.pairwise_ofSource (source : String) :
    (ofSource source).Pairwise fun a b ↦
      a.span.start < b.span.start ∧ a.span.stop ≤ b.span.start := by
  obtain ⟨hbounds, hpairwise⟩ := Piece.pairwise_ofSource source
  have hordered : (ofSource source).Pairwise fun a b ↦ a.span.stop ≤ b.span.start := by
    rw [ofSource_eq]
    refine List.Pairwise.filterMap ofPiece? (fun a b hab first hfirst second hsecond ↦ ?_) hpairwise
    rw [(of_ofPiece?_eq_some hfirst).2.1, (of_ofPiece?_eq_some hsecond).2.1]
    exact hab
  refine hordered.imp_of_mem fun {a b} ha _ hab ↦ ⟨?_, hab⟩
  obtain ⟨piece, hpiece, htrouble⟩ := exists_piece_of_mem ha
  have hlt := (hbounds piece hpiece).1
  rw [(of_ofPiece?_eq_some htrouble).2.1] at hab ⊢
  omega

/-- No trouble meets a token. -/
theorem Diagnostic.disjoint_of_mem (settings : ScanSettings) {source : String}
    {diagnostic : Diagnostic} (hmem : diagnostic ∈ ofSource source) {token : Spanned Token}
    (htoken : token ∈ (scan settings source).tokens) : diagnostic.span.Disjoint token.span := by
  obtain ⟨piece, hpiece, htrouble⟩ := exists_piece_of_mem hmem
  obtain ⟨hother, hspan, -⟩ := of_ofPiece?_eq_some htrouble
  rw [mem_tokens_scan_iff] at htoken
  rw [hspan]
  refine Piece.disjoint_of_ne source hpiece htoken ?_
  rintro rfl
  cases hother

/-- At most one string is unterminated. -/
theorem Diagnostic.countP_unterminated_le (source : String) :
    (ofSource source).countP (·.kind == .unterminatedString) ≤ 1 := by
  rw [List.countP_eq_length_filter, ← amongPieces_ofSource]
  rcases unterminated_located 0 source.toList with ⟨-, hnone⟩ | ⟨-, before, body, -, -, hone⟩
  · rw [hnone]
    exact Nat.zero_le 1
  · rw [hone]
    exact Nat.le_refl 1

/-- The troubles of a scan are the first ones among those between its tokens, as many as are kept,
and the others are counted. What is kept of the text of a trouble is its start, up to the greatest
length of a fragment. Troubles follow one another, none meets a token, and at most one is an
unterminated string. -/
theorem diagnostics_scan_eq_take (settings : ScanSettings) (source : String) :
    let output := scan settings source
    let troubles := troublesBetween source output.tokens
    let kept := min troubles.length Limits.current.maxDiagnostics
    output.diagnostics.map Diagnostic.spanned = troubles.take kept ∧
    output.suppressed = troubles.length - kept ∧
    (∀ diagnostic ∈ output.diagnostics, ∃ text, diagnostic.span.slice? source = some text ∧
      diagnostic.fragment.toList <+: text.toList ∧
      diagnostic.fragment.length = min text.length Limits.current.maxFragmentLength) ∧
    (output.diagnostics.Pairwise fun a b ↦
      a.span.start < b.span.start ∧ a.span.stop ≤ b.span.start) ∧
    (∀ diagnostic ∈ output.diagnostics, ∀ token ∈ output.tokens,
      diagnostic.span.Disjoint token.span) ∧
    output.diagnostics.countP (·.kind == .unterminatedString) ≤ 1 := by
  intro output troubles kept
  have htroubles : (Diagnostic.ofSource source).map Diagnostic.spanned = troubles :=
    Diagnostic.map_spanned_ofSource settings source
  have hlength : (Diagnostic.ofSource source).length = troubles.length := by
    rw [← htroubles, List.length_map]
  have hstored : output.diagnostics =
      (Diagnostic.ofSource source).take Limits.current.maxDiagnostics :=
    diagnostics_scan settings source
  have hsublist : output.diagnostics.Sublist (Diagnostic.ofSource source) :=
    hstored ▸ List.take_sublist _ _
  refine ⟨?_, ?_, fun diagnostic hmem ↦ ?_, ?_, fun diagnostic hmem token htoken ↦ ?_, ?_⟩
  · rw [hstored, List.map_take, htroubles]
    rw [List.take_eq_take_min, Nat.min_comm]
  · have hsuppressed := suppressed_scan settings source
    rw [hlength] at hsuppressed
    change (scan settings source).suppressed = troubles.length - kept
    omega
  · obtain ⟨piece, hpiece, htrouble⟩ := Diagnostic.exists_piece_of_mem (hsublist.subset hmem)
    obtain ⟨-, hspan, hfragment⟩ := Diagnostic.of_ofPiece?_eq_some htrouble
    refine ⟨String.ofList piece.value.text, ?_, ?_, ?_⟩
    · rw [hspan, Piece.slice?_of_mem_ofSource hpiece]
    · rw [hfragment, String.toList_ofList]
      exact List.take_prefix _ _
    · rw [← String.length_toList, hfragment, List.length_take, String.length_ofList, Nat.min_comm]
  · exact (Diagnostic.pairwise_ofSource source).sublist hsublist
  · exact Diagnostic.disjoint_of_mem settings (hsublist.subset hmem) htoken
  · exact (hsublist.countP_le).trans (Diagnostic.countP_unterminated_le source)

end Lexeme
