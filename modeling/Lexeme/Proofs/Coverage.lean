import Lexeme.Proofs.Layout

/-!
# A scan accounts for the whole source

The tokens of a scan, the gaps between them and an open string at the end make up the source
exactly, and the span of a token is where its lexeme stands (`scan_covers_source`). A scan can
therefore neither lose a character that starts a token nor take one twice.
-/

set_option autoImplicit false
set_option relaxedAutoImplicit false

namespace Lexeme

/-! ### The open string at the end -/

/-- What is left over at the end of a tiling starts with the only quote in it. -/
theorem Piece.openTail_shape {pieces : List Piece} (htiles : Tiles pieces) :
    openTail pieces = [] ∨ ∃ body, openTail pieces = '"' :: body ∧ '"' ∉ body := by
  induction pieces with
  | nil => exact Or.inl rfl
  | cons piece pieces ih =>
    cases piece with
    | token t => exact ih htiles.2.2
    | separator c => exact ih htiles.2.2
    | stray c => exact ih htiles.2.2
    | openString cs => exact Or.inr htiles.1

/-- A tiling has one open string if anything is left over at its end, and none otherwise. -/
theorem Piece.countP_isOpenString {pieces : List Piece} (htiles : Tiles pieces) :
    pieces.countP isOpenString = if (openTail pieces).isEmpty then 0 else 1 := by
  induction pieces with
  | nil => rfl
  | cons piece pieces ih =>
    obtain ⟨hpiece, hends, hrest⟩ := htiles
    have hcount := ih hrest
    cases piece with
    | token t => simpa [isOpenString, openTail] using hcount
    | separator c => simpa [isOpenString, openTail] using hcount
    | stray c => simpa [isOpenString, openTail] using hcount
    | openString cs =>
      obtain ⟨body, rfl, _⟩ := hpiece
      obtain rfl := hrest.textOf_eq_nil hends
      simp [isOpenString, openTail]

/-- The number of unterminated strings is the number of open strings of a tiling. -/
theorem unterminatedStrings_scan (settings : ScanSettings) {source : String}
    {pieces : List Piece} (hpieces : Piece.ofSource source = Piece.place 0 pieces) :
    (scan settings source).metrics.unterminatedStrings = pieces.countP Piece.isOpenString := by
  rw [metrics_scan, ScanMetrics.tally, hpieces]
  conv_rhs => rw [← Piece.map_value_place 0 pieces]
  rw [List.countP_map]
  rfl

/-! ### Tokens in their source -/

/-- The span of a token holds at least one byte, lies in the source between characters, and covers
the token as it stands there. -/
theorem Layout.span_of_mem_spanned {layout : Layout} (hlayout : layout.WellFormed)
    {tail : List Char} {source : String} (hsource : source.toList = layout.chars ++ tail)
    {spanned : Spanned Token} (hmem : spanned ∈ layout.spanned) :
    spanned.span.start < spanned.span.stop ∧ spanned.span.stop ≤ source.utf8ByteSize ∧
      String.Pos.Raw.IsValid source ⟨spanned.span.start⟩ ∧
      String.Pos.Raw.IsValid source ⟨spanned.span.stop⟩ ∧
      spanned.span.slice? source = some spanned.value.sourceText := by
  have htoken : spanned.value ∈ layout.tokens := by
    rw [Layout.tokens, ← Layout.map_value_spannedFrom (Text.byteWidth layout.lead)]
    exact List.mem_map_of_mem hmem
  obtain ⟨c, cs, hlexeme, _⟩ := (hlayout.tokens _ htoken).exists_cons
  have hpositive : 0 < Text.byteWidth spanned.value.lexeme :=
    Text.byteWidth_pos (hlexeme ▸ List.cons_ne_nil c cs)
  obtain ⟨front, back, hchars, hspan⟩ := Layout.mem_spanned hmem
  have hsplit : source.toList = front ++ (spanned.value.lexeme ++ (back ++ tail)) := by
    rw [hsource, hchars]
    simp
  have hsplit' : source.toList = (front ++ spanned.value.lexeme) ++ (back ++ tail) := by
    rw [hsplit, List.append_assoc]
  have hstart := Text.isValid_of_append hsplit
  have hstop := Text.isValid_of_append hsplit'
  rw [Text.byteWidth_append] at hstop
  rw [hspan]
  refine ⟨by simpa using hpositive, ?_, hstart, hstop, ?_⟩
  · rw [← Text.byteWidth_toList, hsplit', Text.byteWidth_append, Text.byteWidth_append]
    exact Nat.le_add_right _ _
  · rw [Span.slice?, hsplit, Text.slice?_append, Option.map_some, Token.sourceText]

/-! ### Coverage -/

/-- Every source is the text of a well-formed layout, followed by an open string if there is an
unterminated one; the tokens of a scan are those of the layout, each where its lexeme stands. Hence
the spans lie in the source between characters, follow one another without overlap, and cover the
tokens as they are written. -/
theorem scan_covers_source (settings : ScanSettings) (source : String) :
    ∃ (layout : Layout) (tail : List Char),
      source.toList = layout.chars ++ tail ∧
      layout.WellFormed ∧
      (scan settings source).tokens = layout.spanned ∧
      (tail = [] ∨ ∃ body, tail = '"' :: body ∧ '"' ∉ body) ∧
      (tail ≠ [] ↔ (scan settings source).metrics.unterminatedStrings = 1) ∧
      (∀ token ∈ (scan settings source).tokens,
        token.span.start < token.span.stop ∧ token.span.stop ≤ source.utf8ByteSize ∧
        String.Pos.Raw.IsValid source ⟨token.span.start⟩ ∧
        String.Pos.Raw.IsValid source ⟨token.span.stop⟩ ∧
        token.span.slice? source = some token.value.sourceText) ∧
      (scan settings source).tokens.Pairwise fun a b ↦ a.span.stop ≤ b.span.start := by
  obtain ⟨pieces, htiles, htext, hlocated⟩ := Piece.exists_located_eq_place source.toList
  have hchars := Layout.chars_ofPieces_append htiles
  rw [htext] at hchars
  have hlayout := Layout.wellFormed_ofPieces htiles
  have htokens : (scan settings source).tokens = (Layout.ofPieces pieces).spanned := by
    rw [tokens_scan, Piece.ofSource, hlocated, Layout.spanned_ofPieces htiles, Nat.zero_add]
    rfl
  refine ⟨Layout.ofPieces pieces, Piece.openTail pieces, hchars, hlayout, htokens,
    Piece.openTail_shape htiles, ?_, fun token hmem ↦ ?_, ?_⟩
  · rw [unterminatedStrings_scan settings (hlocated 0), Piece.countP_isOpenString htiles]
    cases Piece.openTail pieces <;> simp
  · exact Layout.span_of_mem_spanned hlayout hchars (htokens ▸ hmem)
  · rw [htokens]
    exact (Layout.pairwise_spannedFrom _ _).2

end Lexeme
