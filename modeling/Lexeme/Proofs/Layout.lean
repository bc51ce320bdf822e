import Lexeme.Proofs.Cuts
import Lexeme.Proofs.ScanOutput

/-!
# A source as tokens and gaps

A layout is a row of tokens with a gap before the first and after each. Its text is the lexemes of
the tokens with the gaps between them, and the place of each token is the range of bytes that its
lexeme takes there (`Layout.mem_spanned`). A tiling of a text gathers into a layout and the text
of an open string, if there is one (`Layout.chars_ofPieces_append`). This layout is well formed
(`Layout.wellFormed_ofPieces`) and its tokens are where the pieces have them
(`Layout.spanned_ofPieces`).
-/

set_option autoImplicit false
set_option relaxedAutoImplicit false

namespace Lexeme

/-- Tokens with the text around them: what stands before the first, and each token with what
stands after it. -/
structure Layout where
  lead : List Char
  rest : List (Token × List Char)
  deriving Repr, DecidableEq

namespace Layout

/-- The tokens from the first to the last. -/
def tokens (layout : Layout) : List Token :=
  layout.rest.map (·.1)

/-- What stands before, between and after the tokens. -/
def gaps (layout : Layout) : List (List Char) :=
  layout.lead :: layout.rest.map (·.2)

/-- The text of the tokens and gaps in a row. -/
def charsOf (rest : List (Token × List Char)) : List Char :=
  rest.flatMap fun part ↦ part.1.lexeme ++ part.2

/-- The text of the layout. -/
def chars (layout : Layout) : List Char :=
  layout.lead ++ charsOf layout.rest

/-- The layout as a source text. -/
def source (layout : Layout) : String :=
  String.ofList layout.chars

/-- Tokens with the bytes that their lexemes take, when the first one starts at `offset`. -/
def spannedFrom (offset : Nat) : List (Token × List Char) → List (Spanned Token)
  | [] => []
  | (token, gap) :: rest =>
    ⟨token, offset, offset + Text.byteWidth token.lexeme⟩ ::
      spannedFrom (offset + Text.byteWidth token.lexeme + Text.byteWidth gap) rest

/-- The tokens with the bytes that their lexemes take in the text of the layout. -/
def spanned (layout : Layout) : List (Spanned Token) :=
  spannedFrom (Text.byteWidth layout.lead) layout.rest

/-- Every token is a lexeme of its kind, and the gaps hold no character that starts a token. -/
structure WellFormed (layout : Layout) : Prop where
  tokens : ∀ token ∈ layout.tokens, token.WellFormed
  gaps : ∀ gap ∈ layout.gaps, ∀ c ∈ gap, IsGap c

/-! ### Places in a layout -/

@[simp] theorem charsOf_cons (token : Token) (gap : List Char) (rest : List (Token × List Char)) :
    charsOf ((token, gap) :: rest) = token.lexeme ++ (gap ++ charsOf rest) := by
  simp [charsOf]

theorem map_value_spannedFrom (offset : Nat) (rest : List (Token × List Char)) :
    (spannedFrom offset rest).map (·.value) = rest.map (·.1) := by
  induction rest generalizing offset with
  | nil => rfl
  | cons part rest ih => rw [spannedFrom, List.map_cons, List.map_cons, ih]

/-- The place of a token is the range of bytes of its lexeme. -/
theorem mem_spannedFrom {before : List Char} {rest : List (Token × List Char)}
    {spanned : Spanned Token} (hmem : spanned ∈ spannedFrom (Text.byteWidth before) rest) :
    ∃ front back, before ++ charsOf rest = front ++ (spanned.value.lexeme ++ back) ∧
      spanned.span = ⟨Text.byteWidth front,
        Text.byteWidth front + Text.byteWidth spanned.value.lexeme⟩ := by
  induction rest generalizing before with
  | nil => cases hmem
  | cons part rest ih =>
    obtain ⟨token, gap⟩ := part
    rw [charsOf_cons]
    rcases List.mem_cons.mp hmem with rfl | hmem
    · exact ⟨before, gap ++ charsOf rest, rfl, rfl⟩
    · rw [← Text.byteWidth_append, ← Text.byteWidth_append] at hmem
      obtain ⟨front, back, hchars, hspan⟩ := ih hmem
      refine ⟨front, back, ?_, hspan⟩
      rw [← hchars]
      simp

theorem mem_spanned {layout : Layout} {spanned : Spanned Token}
    (hmem : spanned ∈ layout.spanned) :
    ∃ front back, layout.chars = front ++ (spanned.value.lexeme ++ back) ∧
      spanned.span = ⟨Text.byteWidth front,
        Text.byteWidth front + Text.byteWidth spanned.value.lexeme⟩ :=
  mem_spannedFrom hmem

/-- Tokens start no earlier than the first one, and each stops before the next one starts. -/
theorem pairwise_spannedFrom (offset : Nat) (rest : List (Token × List Char)) :
    (∀ spanned ∈ spannedFrom offset rest, offset ≤ spanned.span.start) ∧
      (spannedFrom offset rest).Pairwise fun a b ↦ a.span.stop ≤ b.span.start := by
  induction rest generalizing offset with
  | nil => simp [spannedFrom]
  | cons part rest ih =>
    obtain ⟨token, gap⟩ := part
    obtain ⟨hstarts, hpairwise⟩ :=
      ih (offset + Text.byteWidth token.lexeme + Text.byteWidth gap)
    rw [spannedFrom, List.forall_mem_cons, List.pairwise_cons]
    refine ⟨⟨Nat.le_refl _, fun spanned hmem ↦ ?_⟩, fun spanned hmem ↦ ?_, hpairwise⟩
    · have hstart := hstarts spanned hmem
      omega
    · have hstart := hstarts spanned hmem
      change offset + Text.byteWidth token.lexeme ≤ spanned.span.start
      omega

/-! ### The layout of a tiling -/

/-- The tokens among pieces with what stands between them. -/
def ofPieces : List Piece → Layout
  | [] => ⟨[], []⟩
  | .token t :: pieces => ⟨[], (t, (ofPieces pieces).lead) :: (ofPieces pieces).rest⟩
  | .separator c :: pieces => ⟨c :: (ofPieces pieces).lead, (ofPieces pieces).rest⟩
  | .stray c :: pieces => ⟨c :: (ofPieces pieces).lead, (ofPieces pieces).rest⟩
  | .openString _ :: pieces => ofPieces pieces

end Layout

/-- The text of the open string among pieces, if there is one. -/
def Piece.openTail : List Piece → List Char
  | [] => []
  | .openString cs :: _ => cs
  | _ :: pieces => openTail pieces

namespace Layout

/-- Pieces that tile a text make up a layout and the open string after it. -/
theorem chars_ofPieces_append {pieces : List Piece} (htiles : Piece.Tiles pieces) :
    Piece.textOf pieces = (ofPieces pieces).chars ++ Piece.openTail pieces := by
  induction pieces with
  | nil => rfl
  | cons piece pieces ih =>
    obtain ⟨_, hends, hrest⟩ := htiles
    rw [Piece.textOf_cons, ih hrest]
    cases piece with
    | token t => simp [ofPieces, chars, Piece.openTail, Piece.text]
    | separator c => simp [ofPieces, chars, Piece.openTail, Piece.text]
    | stray c => simp [ofPieces, chars, Piece.openTail, Piece.text]
    | openString cs =>
      obtain rfl := hrest.textOf_eq_nil hends
      simp [ofPieces, chars, charsOf, Piece.openTail, Piece.text]

theorem wellFormed_ofPieces {pieces : List Piece} (htiles : Piece.Tiles pieces) :
    (ofPieces pieces).WellFormed := by
  induction pieces with
  | nil => exact ⟨by simp [ofPieces, Layout.tokens], by simp [ofPieces, Layout.gaps]⟩
  | cons piece pieces ih =>
    obtain ⟨hpiece, _, hrest⟩ := htiles
    obtain ⟨htokens, hgaps⟩ := ih hrest
    obtain ⟨hlead, hgaps⟩ := List.forall_mem_cons.mp hgaps
    cases piece with
    | token t =>
      refine ⟨List.forall_mem_cons.mpr ⟨hpiece, htokens⟩, ?_⟩
      exact List.forall_mem_cons.mpr
        ⟨List.forall_mem_nil _, List.forall_mem_cons.mpr ⟨hlead, hgaps⟩⟩
    | separator c =>
      refine ⟨htokens, List.forall_mem_cons.mpr ⟨?_, hgaps⟩⟩
      exact List.forall_mem_cons.mpr ⟨Or.inl hpiece, hlead⟩
    | stray c =>
      refine ⟨htokens, List.forall_mem_cons.mpr ⟨?_, hgaps⟩⟩
      exact List.forall_mem_cons.mpr ⟨Or.inr hpiece, hlead⟩
    | openString cs => exact ⟨htokens, List.forall_mem_cons.mpr ⟨hlead, hgaps⟩⟩

/-- The tokens found at the places of pieces are those of their layout. -/
theorem spanned_ofPieces {pieces : List Piece} (htiles : Piece.Tiles pieces) (offset : Nat) :
    (Piece.place offset pieces).filterMap Piece.spannedToken? =
      spannedFrom (offset + Text.byteWidth (ofPieces pieces).lead) (ofPieces pieces).rest := by
  induction pieces generalizing offset with
  | nil => rfl
  | cons piece pieces ih =>
    obtain ⟨_, hends, hrest⟩ := htiles
    rw [Piece.place]
    cases piece with
    | token t =>
      have hwidth := Piece.width_eq (.token t)
      rw [List.filterMap_cons_some (Piece.spannedToken?_token t _), ih hrest, hwidth]
      rfl
    | separator c =>
      rw [List.filterMap_cons_none (Piece.spannedToken?_separator c _), ih hrest, ofPieces,
        Text.byteWidth_cons, ← Nat.add_assoc]
      rfl
    | stray c =>
      rw [List.filterMap_cons_none (Piece.spannedToken?_stray c _), ih hrest, ofPieces,
        Text.byteWidth_cons, ← Nat.add_assoc]
      rfl
    | openString cs =>
      obtain rfl := hrest.textOf_eq_nil hends
      rfl

end Layout

end Lexeme
