import Lexeme.Proofs.MaximalMunch

/-!
# Tilings of a text

A text is passed piece by piece, and the pieces tile it: each is well formed and ends before the
text of those after it (`Piece.Tiles`). Every text has a tiling (`Piece.exists_tiles`), and the
places found in a text are those of its tiling (`Piece.located_textOf`). Two tilings make one when
the last piece of the first ends before the second (`Piece.tiles_append_iff`), and then the places in
the whole text are those in its parts, the later ones shifted (`Piece.located_append`,
`Piece.located_add`).
-/

set_option autoImplicit false
set_option relaxedAutoImplicit false

namespace Lexeme

/-! ### Shifted places -/

/-- The span as many bytes further on. -/
def Span.shift (bytes : Nat) (span : Span) : Span :=
  ⟨span.start + bytes, span.stop + bytes⟩

theorem Span.length_shift (bytes : Nat) (span : Span) :
    (span.shift bytes).length = span.length := by
  simp [Span.length, Span.shift, Nat.add_sub_add_right]

/-- The value as many bytes further on. -/
def Spanned.shift {α : Type} (bytes : Nat) (spanned : Spanned α) : Spanned α :=
  ⟨spanned.value, spanned.span.shift bytes⟩

namespace Piece

/-! ### Pieces that make up a text -/

/-- The text that pieces make up, one after the other. -/
def textOf (pieces : List Piece) : List Char :=
  pieces.flatMap text

@[simp] theorem textOf_nil : textOf [] = [] := rfl

@[simp] theorem textOf_cons (piece : Piece) (pieces : List Piece) :
    textOf (piece :: pieces) = piece.text ++ textOf pieces := rfl

@[simp] theorem textOf_append (first second : List Piece) :
    textOf (first ++ second) = textOf first ++ textOf second := by
  simp [textOf]

/-- Well-formed pieces of which each ends before the text of those after it. -/
def Tiles : List Piece → Prop
  | [] => True
  | piece :: pieces => piece.WellFormed ∧ piece.EndsBefore (textOf pieces) ∧ Tiles pieces

theorem Tiles.wellFormed {pieces : List Piece} (htiles : Tiles pieces) :
    ∀ piece ∈ pieces, piece.WellFormed := by
  induction pieces with
  | nil => simp
  | cons first pieces ih =>
    rintro piece (_ | ⟨_, hmem⟩)
    · exact htiles.1
    · exact ih htiles.2.2 piece hmem

theorem Tiles.textOf_eq_nil {pieces : List Piece} (htiles : Tiles pieces)
    (htext : textOf pieces = []) : pieces = [] := by
  cases pieces with
  | nil => rfl
  | cons piece pieces => exact absurd (List.append_eq_nil_iff.mp htext).1 htiles.1.text_ne_nil

/-- Every text has a tiling. -/
theorem exists_tiles (cs : List Char) : ∃ pieces, Tiles pieces ∧ textOf pieces = cs := by
  induction hlength : cs.length using Nat.strong_induction_on generalizing cs with
  | _ length ih =>
    cases cs with
    | nil => exact ⟨[], trivial, rfl⟩
    | cons c cs =>
      obtain ⟨piece, rest, htext, hpiece, hends⟩ := exists_piece c cs
      have hshorter : rest.length < length := by
        have hpos := List.length_pos_iff.mpr hpiece.text_ne_nil
        rw [← hlength, htext, List.length_append]
        omega
      obtain ⟨pieces, htiles, hpieces⟩ := ih rest.length hshorter rest rfl
      exact ⟨piece :: pieces, ⟨hpiece, hpieces.symm ▸ hends, htiles⟩, by
        rw [textOf_cons, hpieces, htext]⟩

/-- One tiling follows another when its text does not continue the last piece of the first. -/
theorem tiles_append_iff (first second : List Piece) :
    Tiles (first ++ second) ↔
      Tiles first ∧ Tiles second ∧ ∀ piece ∈ first.getLast?, piece.EndsBefore (textOf second) := by
  induction first with
  | nil => simp [Tiles]
  | cons piece pieces ih =>
    rw [List.cons_append, Tiles, Tiles, ih, textOf_append]
    cases pieces with
    | nil =>
      simp only [textOf_nil, List.nil_append, Tiles, List.getLast?_nil, List.getLast?_singleton,
        Option.mem_some_iff, forall_eq']
      have hend := piece.endsBefore_nil
      tauto
    | cons next pieces =>
      rw [List.getLast?_cons_cons]
      constructor
      · rintro ⟨hpiece, hends, hfirst, hsecond, hcut⟩
        exact ⟨⟨hpiece, hends.of_append, hfirst⟩, hsecond, hcut⟩
      · rintro ⟨⟨hpiece, hends, hfirst⟩, hsecond, hcut⟩
        have hne : textOf (next :: pieces) ≠ [] := fun hnil ↦
          List.cons_ne_nil _ _ (hfirst.textOf_eq_nil hnil)
        exact ⟨hpiece, hends.append hne _, hfirst, hsecond, hcut⟩

/-! ### Places -/

/-- Pieces with their places, when the first one starts at `offset`. -/
def place (offset : Nat) : List Piece → List (Spanned Piece)
  | [] => []
  | piece :: pieces =>
    ⟨piece, offset, offset + piece.width⟩ :: place (offset + piece.width) pieces

theorem map_value_place (offset : Nat) (pieces : List Piece) :
    (place offset pieces).map (·.value) = pieces := by
  induction pieces generalizing offset with
  | nil => rfl
  | cons piece pieces ih => rw [place, List.map_cons, ih]

theorem value_mem_of_mem_place {offset : Nat} {pieces : List Piece} {piece : Spanned Piece}
    (hmem : piece ∈ place offset pieces) : piece.value ∈ pieces := by
  rw [← map_value_place offset pieces]
  exact List.mem_map_of_mem hmem

theorem place_append (offset : Nat) (first second : List Piece) :
    place offset (first ++ second) =
      place offset first ++ place (offset + Text.byteWidth (textOf first)) second := by
  induction first generalizing offset with
  | nil => rfl
  | cons piece pieces ih =>
    rw [List.cons_append, place, place, ih, List.cons_append, textOf_cons, Text.byteWidth_append,
      ← width_eq, Nat.add_assoc]

theorem place_add (offset bytes : Nat) (pieces : List Piece) :
    place (offset + bytes) pieces = (place offset pieces).map (Spanned.shift bytes) := by
  induction pieces generalizing offset with
  | nil => rfl
  | cons piece pieces ih =>
    have hstop : offset + bytes + piece.width = offset + piece.width + bytes := by omega
    rw [place, place, List.map_cons, hstop, ih]
    rfl

/-- The piece at the front of a text is found there, and the others behind it. -/
theorem located_piece (piece : Piece) (hpiece : piece.WellFormed) {rest : List Char}
    (hends : piece.EndsBefore rest) (offset : Nat) :
    located offset (piece.text ++ rest) =
      ⟨piece, offset, offset + piece.width⟩ :: located (offset + piece.width) rest := by
  cases htext : piece.text ++ rest with
  | nil => exact absurd (List.append_eq_nil_iff.mp htext).1 hpiece.text_ne_nil
  | cons c cs => rw [located, next_eq_of_endsBefore hpiece htext.symm hends]

/-- What is found in a text is what tiles it, in its place. -/
theorem located_textOf {pieces : List Piece} (htiles : Tiles pieces) (offset : Nat) :
    located offset (textOf pieces) = place offset pieces := by
  induction pieces generalizing offset with
  | nil => rw [textOf_nil, located, place]
  | cons piece pieces ih =>
    obtain ⟨hpiece, hends, hrest⟩ := htiles
    rw [textOf_cons, located_piece piece hpiece hends, ih hrest, place]

/-- Every text has a tiling, and what is found in the text is this tiling in its place. -/
theorem exists_located_eq_place (cs : List Char) :
    ∃ pieces, Tiles pieces ∧ textOf pieces = cs ∧
      ∀ offset, located offset cs = place offset pieces := by
  obtain ⟨pieces, htiles, rfl⟩ := exists_tiles cs
  exact ⟨pieces, htiles, rfl, located_textOf htiles⟩

/-- What is found in a text is well formed. -/
theorem wellFormed_of_mem_located {offset : Nat} {cs : List Char} :
    ∀ piece ∈ located offset cs, piece.value.WellFormed := by
  obtain ⟨pieces, htiles, _, hlocated⟩ := exists_located_eq_place cs
  intro piece hmem
  rw [hlocated] at hmem
  exact htiles.wellFormed piece.value (value_mem_of_mem_place hmem)

/-- Where a text starts only shifts the places in it. -/
theorem located_add (offset bytes : Nat) (cs : List Char) :
    located (offset + bytes) cs = (located offset cs).map (Spanned.shift bytes) := by
  obtain ⟨pieces, _, _, hlocated⟩ := exists_located_eq_place cs
  rw [hlocated, hlocated, place_add]

/-- Two texts put together hold what each holds by itself, the second further on, when the second
does not continue the last piece of the first. -/
theorem located_append {cs ds : List Char} (offset : Nat)
    (hcut : ∀ piece ∈ (located offset cs).getLast?, piece.value.EndsBefore ds) :
    located offset (cs ++ ds) =
      located offset cs ++ located (offset + Text.byteWidth cs) ds := by
  obtain ⟨first, hfirst, rfl, hlocated⟩ := exists_located_eq_place cs
  obtain ⟨second, hsecond, rfl, hlocated'⟩ := exists_located_eq_place ds
  have hends : ∀ piece ∈ first.getLast?, piece.EndsBefore (textOf second) := by
    intro piece hmem
    rw [← map_value_place offset first, List.getLast?_map, ← hlocated] at hmem
    obtain ⟨spanned, hspanned, rfl⟩ := Option.map_eq_some_iff.mp hmem
    exact hcut spanned hspanned
  have htiles := (tiles_append_iff first second).mpr ⟨hfirst, hsecond, hends⟩
  rw [hlocated, hlocated', ← textOf_append, located_textOf htiles, place_append]

end Piece

end Lexeme
