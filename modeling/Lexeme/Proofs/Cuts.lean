import Lexeme.Span

/-!
# Cutting a text at byte offsets

A text is cut at the width of what stands before the cut (`Text.cutAt?_append`), so the bytes of a
part of a text are a slice of it (`Text.slice?_append`), and both ends of the part are positions
between characters (`Text.isValid_of_append`). There is no slice between other positions
(`Text.isSome_slice?_iff`). `Text.Follows` says what stands in a source from an offset on.
-/

set_option autoImplicit false
set_option relaxedAutoImplicit false

namespace Lexeme.Text

/-- Only the empty text takes no bytes. -/
theorem byteWidth_pos {cs : List Char} (hne : cs ≠ []) : 0 < byteWidth cs := by
  obtain ⟨c, cs, rfl⟩ := List.exists_cons_of_ne_nil hne
  have hpos := Char.utf8Size_pos c
  rw [byteWidth_cons]
  omega

theorem cutFrom_append (passed before after : List Char) :
    cutFrom passed (byteWidth before) (before ++ after) =
      some (passed.reverse ++ before, after) := by
  induction before generalizing passed with
  | nil => simp [cutFrom]
  | cons c before ih =>
    have hpos := Char.utf8Size_pos c
    obtain ⟨width, hwidth⟩ : ∃ width, c.utf8Size + byteWidth before = width + 1 :=
      ⟨c.utf8Size + byteWidth before - 1, by omega⟩
    have hle : c.utf8Size ≤ width + 1 := by omega
    have hrest : width + 1 - c.utf8Size = byteWidth before := by omega
    rw [byteWidth_cons, hwidth, List.cons_append, cutFrom, if_pos hle, hrest, ih]
    simp

/-- A text is cut at the width of what stands before the cut. -/
theorem cutAt?_append (before after : List Char) :
    cutAt? (byteWidth before) (before ++ after) = some (before, after) :=
  cutFrom_append [] before after

/-- The bytes of a part of a text are a slice of it. -/
theorem slice?_append (before middle after : List Char) :
    slice? (byteWidth before) (byteWidth before + byteWidth middle) (before ++ (middle ++ after)) =
      some middle := by
  have hle : byteWidth before ≤ byteWidth before + byteWidth middle := Nat.le_add_right _ _
  rw [slice?, if_pos hle, cutAt?_append, Nat.add_sub_cancel_left]
  simp [cutAt?_append]

/-- The width of what stands before a cut is a position between two characters. -/
theorem isValid_of_append {source : String} {before after : List Char}
    (hsource : source.toList = before ++ after) :
    String.Pos.Raw.IsValid source ⟨byteWidth before⟩ := by
  rw [String.Pos.Raw.isValid_iff_exists_append]
  refine ⟨String.ofList before, String.ofList after, ?_, ?_⟩
  · rw [← String.toList_inj]
    simpa using hsource
  · have hwidth := byteWidth_toList (String.ofList before)
    rw [String.toList_ofList] at hwidth
    rw [hwidth]
    rfl

/-- A position between two characters is the width of what stands before it. -/
theorem isValid_iff_exists_toList (source : String) (offset : Nat) :
    String.Pos.Raw.IsValid source ⟨offset⟩ ↔
      ∃ before after, source.toList = before ++ after ∧ byteWidth before = offset := by
  constructor
  · intro hvalid
    obtain ⟨before, after, rfl, hoffset⟩ := String.Pos.Raw.isValid_iff_exists_append.mp hvalid
    refine ⟨before.toList, after.toList, String.toList_append, ?_⟩
    rw [byteWidth_toList]
    exact (congrArg String.Pos.Raw.byteIdx hoffset).symm
  · rintro ⟨before, after, hsource, rfl⟩
    exact isValid_of_append hsource

theorem cutFrom_eq_some {passed cs front back : List Char} {offset : Nat}
    (hcut : cutFrom passed offset cs = some (front, back)) :
    ∃ before, front = passed.reverse ++ before ∧ cs = before ++ back ∧
      byteWidth before = offset := by
  fun_induction cutFrom passed offset cs with
  | case1 passed cs =>
    obtain ⟨rfl, rfl⟩ := Prod.mk.inj (Option.some.inj hcut)
    exact ⟨[], by simp⟩
  | case2 => cases hcut
  | case3 passed offset c cs hle ih =>
    obtain ⟨before, rfl, rfl, hwidth⟩ := ih hcut
    refine ⟨c :: before, by simp, rfl, ?_⟩
    rw [byteWidth_cons, hwidth]
    omega
  | case4 => cases hcut

/-- A text is cut only at the width of what stands before the cut. -/
theorem cutAt?_eq_some_iff (offset : Nat) (cs front back : List Char) :
    cutAt? offset cs = some (front, back) ↔ cs = front ++ back ∧ byteWidth front = offset := by
  constructor
  · intro hcut
    obtain ⟨before, rfl, hcs, hwidth⟩ := cutFrom_eq_some hcut
    exact ⟨hcs, hwidth⟩
  · rintro ⟨rfl, rfl⟩
    exact cutAt?_append front back

/-- Two cuts of one text: what stands before the first one stands before the later one. -/
theorem exists_between_of_append {first first' last last' : List Char}
    (htext : first ++ first' = last ++ last') (hle : byteWidth first ≤ byteWidth last) :
    ∃ middle, last = first ++ middle ∧ first' = middle ++ last' := by
  rcases List.append_eq_append_iff.mp htext with hbetween | ⟨middle, rfl, rfl⟩
  · exact hbetween
  · by_cases hmiddle : middle = []
    · exact ⟨[], by simp [hmiddle], by simp [hmiddle]⟩
    · have hpos := byteWidth_pos hmiddle
      rw [byteWidth_append] at hle
      omega

/-- A source has a slice between two offsets if and only if both lie between characters of it, in
order. -/
theorem isSome_slice?_iff (source : String) (first last : Nat) :
    (slice? first last source.toList).isSome ↔
      first ≤ last ∧ String.Pos.Raw.IsValid source ⟨first⟩ ∧
        String.Pos.Raw.IsValid source ⟨last⟩ := by
  simp only [isValid_iff_exists_toList]
  constructor
  · intro hsome
    obtain ⟨middle, hslice⟩ := Option.isSome_iff_exists.mp hsome
    simp only [slice?, Option.ite_none_right_eq_some, Option.bind_eq_bind,
      Option.bind_eq_some_iff] at hslice
    obtain ⟨hle, ⟨before, rest⟩, hfirst, ⟨part, after⟩, hlast, -⟩ := hslice
    obtain ⟨hsource, rfl⟩ := (cutAt?_eq_some_iff _ _ _ _).mp hfirst
    obtain ⟨rfl, hwidth⟩ := (cutAt?_eq_some_iff _ _ _ _).mp hlast
    refine ⟨hle, ⟨before, _, hsource, rfl⟩, before ++ part, after, ?_, ?_⟩
    · rw [hsource, List.append_assoc]
    · rw [byteWidth_append, hwidth]
      omega
  · rintro ⟨hle, ⟨before, rest, hsource, rfl⟩, upTo, after, hsource', rfl⟩
    obtain ⟨middle, rfl, rfl⟩ := exists_between_of_append (hsource.symm.trans hsource') hle
    rw [hsource, byteWidth_append, slice?_append]
    rfl

/-! ### What stands from an offset on -/

/-- The offset lies between two characters of the source, and the text stands there up to the end
of the source. -/
def Follows (source : String) (offset : Nat) (rest : List Char) : Prop :=
  ∃ before, source.toList = before ++ rest ∧ byteWidth before = offset

namespace Follows

variable {source : String} {offset : Nat} {part rest : List Char}

protected theorem start (source : String) : Follows source 0 source.toList :=
  ⟨[], rfl, rfl⟩

/-- Behind a part of the text stands the rest of it. -/
theorem advance (hat : Follows source offset (part ++ rest)) :
    Follows source (offset + byteWidth part) rest := by
  obtain ⟨before, hsource, rfl⟩ := hat
  exact ⟨before ++ part, by rw [hsource, List.append_assoc], byteWidth_append before part⟩

theorem advance_cons {c : Char} (hat : Follows source offset (c :: rest)) :
    Follows source (offset + c.utf8Size) rest := by
  have hnext : Follows source (offset + byteWidth [c]) rest := advance hat
  rwa [byteWidth_cons, byteWidth_nil, Nat.add_zero] at hnext

/-- The text takes the bytes from the offset up to the end of the source. -/
theorem add_byteWidth (hat : Follows source offset rest) :
    offset + byteWidth rest = source.utf8ByteSize := by
  obtain ⟨before, hsource, rfl⟩ := hat
  rw [← byteWidth_toList, hsource, byteWidth_append]

theorem le_size (hat : Follows source offset rest) : offset ≤ source.utf8ByteSize :=
  hat.add_byteWidth ▸ Nat.le_add_right offset _

/-- Only at the end of the source nothing follows. -/
theorem lt_size_iff (hat : Follows source offset rest) :
    offset < source.utf8ByteSize ↔ rest ≠ [] := by
  rw [← hat.add_byteWidth]
  constructor
  · rintro hlt rfl
    simp at hlt
  · intro hne
    exact Nat.lt_add_of_pos_right (byteWidth_pos hne)

theorem isValid (hat : Follows source offset rest) : String.Pos.Raw.IsValid source ⟨offset⟩ := by
  obtain ⟨before, hsource, rfl⟩ := hat
  exact isValid_of_append hsource

/-- A part of the text is the slice of the source from the offset to behind the part. -/
theorem slice? (hat : Follows source offset (part ++ rest)) :
    Text.slice? offset (offset + byteWidth part) source.toList = some part := by
  obtain ⟨before, hsource, rfl⟩ := hat
  rw [hsource, slice?_append]

/-- All of the text is the slice of the source from the offset to the end. -/
theorem slice?_size (hat : Follows source offset rest) :
    Text.slice? offset source.utf8ByteSize source.toList = some rest := by
  rw [← hat.add_byteWidth]
  rw [← List.append_nil rest] at hat
  exact hat.slice?

/-- The same text follows from one offset only. -/
theorem offset_eq {other : Nat} (hat : Follows source offset rest)
    (hother : Follows source other rest) : offset = other := by
  have hsize := hat.add_byteWidth.trans hother.add_byteWidth.symm
  exact Nat.add_right_cancel hsize

/-- Only one text follows from an offset. -/
theorem text_eq {other : List Char} (hat : Follows source offset rest)
    (hother : Follows source offset other) : rest = other :=
  Option.some.inj (hat.slice?_size.symm.trans hother.slice?_size)

/-- From a place between two characters some character follows, unless it is the end of the
source. -/
theorem exists_of_isValid (hvalid : String.Pos.Raw.IsValid source ⟨offset⟩)
    (hlt : offset < source.utf8ByteSize) : ∃ c cs, Follows source offset (c :: cs) := by
  obtain ⟨before, after, hsource, hwidth⟩ := (isValid_iff_exists_toList source offset).mp hvalid
  have hat : Follows source offset after := ⟨before, hsource, hwidth⟩
  obtain ⟨c, cs, rfl⟩ := List.exists_cons_of_ne_nil (hat.lt_size_iff.mp hlt)
  exact ⟨c, cs, hat⟩

end Follows

end Lexeme.Text
