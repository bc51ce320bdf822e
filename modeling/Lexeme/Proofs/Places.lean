import Lexeme.Proofs.QuoteSplit
import Mathlib.Data.List.DropRight

/-!
# Where the characters of a source stand

Each character of a source takes a range of bytes (`Text.charsAt`), and it stands in exactly one
piece of the source (`Piece.exists_covering`). Whether it is part of a token can therefore be seen
from spans alone: a character is skipped when its span meets the span of no token and it does not
stand behind a quote that is never closed (`Span.Skipped`). The skipped characters of a source are
the pieces of it that are single characters and no tokens (`Piece.filter_skipped`): its stray
characters (`skippedChars_other`) and its separators (`length_skippedChars_whitespace`).
-/

set_option autoImplicit false
set_option relaxedAutoImplicit false

namespace Lexeme

open Text (byteWidth)

/-! ### Spans -/

namespace Span

/-- Two spans have no byte in common. -/
def Disjoint (a b : Span) : Prop :=
  a.stop ≤ b.start ∨ b.stop ≤ a.start

instance (a b : Span) : Decidable (a.Disjoint b) :=
  inferInstanceAs (Decidable (_ ∨ _))

theorem Disjoint.symm {a b : Span} (hdisjoint : a.Disjoint b) : b.Disjoint a :=
  Or.symm hdisjoint

/-- Every byte of the inner span is one of the outer span. -/
def Covers (outer inner : Span) : Prop :=
  outer.start ≤ inner.start ∧ inner.stop ≤ outer.stop

instance (outer inner : Span) : Decidable (outer.Covers inner) :=
  inferInstanceAs (Decidable (_ ∧ _))

/-- What a span covers has no byte in common with what is disjoint from it. -/
theorem Covers.disjoint {outer inner other : Span} (hcovers : outer.Covers inner)
    (hdisjoint : outer.Disjoint other) : inner.Disjoint other := by
  obtain ⟨hstart, hstop⟩ := hcovers
  rcases hdisjoint with hbefore | hafter
  · exact Or.inl (hstop.trans hbefore)
  · exact Or.inr (hafter.trans hstart)

/-- What a span covers meets it. -/
theorem Covers.not_disjoint {outer inner : Span} (hcovers : outer.Covers inner)
    (hinner : inner.start < inner.stop) : ¬ inner.Disjoint outer := by
  obtain ⟨hstart, hstop⟩ := hcovers
  rintro (hbefore | hafter) <;> omega

end Span

/-! ### Characters with their places -/

/-- The characters of a text with the bytes that they take, when the first one starts at
`offset`. -/
def Text.charsAt (offset : Nat) : List Char → List (Spanned Char)
  | [] => []
  | c :: cs => ⟨c, offset, offset + c.utf8Size⟩ :: charsAt (offset + c.utf8Size) cs

namespace Text

theorem charsAt_append (offset : Nat) (cs ds : List Char) :
    charsAt offset (cs ++ ds) = charsAt offset cs ++ charsAt (offset + byteWidth cs) ds := by
  induction cs generalizing offset with
  | nil => rfl
  | cons c cs ih =>
    rw [List.cons_append, charsAt, charsAt, ih, List.cons_append, byteWidth_cons, Nat.add_assoc]

/-- A character of a text takes bytes of the text. -/
theorem mem_charsAt {offset : Nat} {cs : List Char} {char : Spanned Char}
    (hmem : char ∈ charsAt offset cs) :
    char.value ∈ cs ∧ offset ≤ char.span.start ∧ char.span.start < char.span.stop ∧
      char.span.stop ≤ offset + byteWidth cs := by
  induction cs generalizing offset with
  | nil => cases hmem
  | cons c cs ih =>
    have hpos := Char.utf8Size_pos c
    rw [byteWidth_cons]
    rcases List.mem_cons.mp hmem with rfl | hmem
    · exact ⟨List.mem_cons_self, Nat.le_refl _, by dsimp only; omega, by dsimp only; omega⟩
    · obtain ⟨hvalue, hstart, hlt, hstop⟩ := ih hmem
      exact ⟨List.mem_cons_of_mem _ hvalue, by omega, hlt, by omega⟩

/-- Characters follow one another. -/
theorem pairwise_charsAt (offset : Nat) (cs : List Char) :
    (charsAt offset cs).Pairwise fun a b ↦ a.span.stop ≤ b.span.start := by
  induction cs generalizing offset with
  | nil => exact List.Pairwise.nil
  | cons c cs ih => exact List.pairwise_cons.mpr ⟨fun char hmem ↦ (mem_charsAt hmem).2.1, ih _⟩

end Text

/-! ### The string that is never closed -/

/-- The last quote of a text with what follows it, when the quotes are odd in number: it starts a
string, and no quote closes it. -/
def Text.unclosed (cs : List Char) : List Char :=
  if cs.count '"' % 2 = 1 then '"' :: cs.rtakeWhile (· != '"') else []

/-- The byte of a source at which its unclosed string starts, or the end when there is none. -/
def unclosedFrom (source : String) : Nat :=
  source.utf8ByteSize - byteWidth (Text.unclosed source.toList)

namespace Text

theorem unclosed_eq_nil_iff (cs : List Char) : unclosed cs = [] ↔ cs.count '"' % 2 = 0 := by
  unfold unclosed
  split_ifs with hodd
  · simp [hodd]
  · simp only [true_iff]
    omega

/-- Quotes that come in pairs leave nothing open. -/
theorem unclosed_append {cs : List Char} (heven : cs.count '"' % 2 = 0) (ds : List Char) :
    unclosed (cs ++ ds) = unclosed ds := by
  have hparity : (cs ++ ds).count '"' % 2 = ds.count '"' % 2 := by
    rw [List.count_append]
    omega
  unfold unclosed
  rw [hparity]
  split_ifs with hodd
  · -- There is a quote in the second text, so the search from the end does not reach the first.
    have hquote : '"' ∈ ds.reverse := by
      rw [List.mem_reverse, ← List.count_pos_iff]
      omega
    have hstops : (ds.reverse.takeWhile (· != '"')).length ≠ ds.reverse.length := by
      intro hlength
      have hall := List.takeWhile_eq_self_iff.mp
        ((List.takeWhile_prefix _).eq_of_length hlength) '"' hquote
      simp at hall
    rw [List.rtakeWhile, List.rtakeWhile, List.reverse_append, List.takeWhile_append,
      if_neg hstops]
  · rfl

/-- A quote without another one behind it is left open. -/
theorem unclosed_quote {body : List Char} (hbody : '"' ∉ body) :
    unclosed ('"' :: body) = '"' :: body := by
  have hcount : ('"' :: body).count '"' = 1 := by
    rw [List.count_cons_self, List.count_eq_zero.mpr hbody]
  have hkeep : ∀ c ∈ body.reverse, (c != '"') = true := fun c hc ↦
    Munch.bne_quote_of_mem hbody c (List.mem_reverse.mp hc)
  unfold unclosed
  rw [if_pos (by rw [hcount]), List.rtakeWhile, List.reverse_cons,
    List.takeWhile_append_of_pos hkeep]
  simp

end Text

/-! ### Characters of tokens -/

/-- Outside strings a token has characters that start a token, and underscores in words. -/
theorem Token.WellFormed.of_mem_text {token : Token} (htoken : token.WellFormed) {c : Char}
    (hc : c ∈ token.text.toList) (hkind : token.kind ≠ .string) :
    (token.kind = .word ∧ c = '_') ∨ CharClass.of c = .digit ∨ CharClass.of c = .letter ∨
      CharClass.of c = .operator ∨ CharClass.of c = .delimiter := by
  obtain ⟨kind, body⟩ := token
  unfold Token.WellFormed at htoken
  cases kind with
  | number => exact Or.inr (Or.inl ((CharClass.of_eq_digit_iff c).mpr (htoken.2 c hc)))
  | word =>
    dsimp only at hc htoken
    cases hbody : body.toList with
    | nil => rw [hbody] at hc; cases hc
    | cons first rest =>
      rw [hbody] at hc htoken
      rcases List.mem_cons.mp hc with rfl | hc
      · exact Or.inr (Or.inr (Or.inl ((CharClass.of_eq_letter_iff c).mpr htoken.1)))
      · rcases (isWordContinue_eq_true_iff c).mp (htoken.2 c hc) with hunderscore | hclass | hclass
        · exact Or.inl ⟨rfl, hunderscore⟩
        · exact Or.inr (Or.inr (Or.inl hclass))
        · exact Or.inr (Or.inl hclass)
  | string => exact absurd rfl hkind
  | operator =>
    refine Or.inr (Or.inr (Or.inr (Or.inl (CharClass.of_operatorChars c ?_))))
    dsimp only at hc
    rcases htoken with ⟨d, hd, htext⟩ | ⟨pair, hpair, htext⟩
    · rw [htext, List.mem_singleton] at hc
      exact hc ▸ hd
    · obtain ⟨d, hd, e, he, heq⟩ := exists_of_mem_pairOperators pair hpair
      rw [htext, heq] at hc
      rcases List.mem_pair.mp hc with rfl | rfl
      · exact hd
      · exact he
  | delimiter =>
    obtain ⟨d, hd, htext⟩ := htoken
    dsimp only at hc htext
    rw [htext, List.mem_singleton] at hc
    exact Or.inr (Or.inr (Or.inr (Or.inr (CharClass.of_delimiterChars c (hc ▸ hd)))))

/-- The text of a token has no quote in it. -/
theorem Token.WellFormed.quote_not_mem_text {token : Token} (htoken : token.WellFormed) :
    '"' ∉ token.text.toList := by
  intro hquote
  by_cases hkind : token.kind = .string
  · unfold Token.WellFormed at htoken
    rw [hkind] at htoken
    exact htoken hquote
  · have hclass := htoken.of_mem_text hquote hkind
    simp at hclass

namespace Piece

/-- Only an open string has a quote without its partner. -/
theorem WellFormed.even_count_quote {piece : Piece} (hpiece : piece.WellFormed)
    (hclosed : piece.isOpenString = false) : piece.text.count '"' % 2 = 0 := by
  cases piece with
  | token t =>
    obtain ⟨kind, body⟩ := t
    have hnone : body.toList.count '"' = 0 :=
      List.count_eq_zero.mpr (Token.WellFormed.quote_not_mem_text hpiece)
    cases kind <;> simp [text, Token.lexeme, hnone]
  | separator c =>
    have hquote : c ≠ '"' := by
      rintro rfl
      simp [WellFormed] at hpiece
    simp [text, hquote]
  | stray c =>
    have hquote : c ≠ '"' := by
      rintro rfl
      simp [WellFormed] at hpiece
    simp [text, hquote]
  | openString cs => cases hclosed

theorem even_count_quote_textOf {pieces : List Piece} (hpieces : ∀ piece ∈ pieces, piece.WellFormed)
    (hclosed : ∀ piece ∈ pieces, piece.isOpenString = false) :
    (textOf pieces).count '"' % 2 = 0 := by
  induction pieces with
  | nil => rfl
  | cons piece pieces ih =>
    obtain ⟨hpiece, hpieces⟩ := List.forall_mem_cons.mp hpieces
    obtain ⟨hfirst, hclosed⟩ := List.forall_mem_cons.mp hclosed
    have heven := hpiece.even_count_quote hfirst
    have hrest := ih hpieces hclosed
    rw [textOf_cons, List.count_append]
    omega

/-- A string can be open only at the end of a tiling. -/
theorem Tiles.closed_or_concat_open {pieces : List Piece} (htiles : Tiles pieces) :
    (∀ piece ∈ pieces, piece.isOpenString = false) ∨
      ∃ (init : List Piece) (body : List Char), pieces = init ++ [openString ('"' :: body)] ∧
        '"' ∉ body ∧ ∀ piece ∈ init, piece.isOpenString = false := by
  induction pieces with
  | nil => exact Or.inl (List.forall_mem_nil _)
  | cons piece pieces ih =>
    obtain ⟨hpiece, hends, hrest⟩ := htiles
    cases hopen : piece.isOpenString with
    | true =>
      cases piece with
      | openString cs =>
        obtain ⟨body, rfl, hbody⟩ := hpiece
        obtain rfl := hrest.textOf_eq_nil hends
        exact Or.inr ⟨[], body, rfl, hbody, List.forall_mem_nil _⟩
      | _ => cases hopen
    | false =>
      rcases ih hrest with hclosed | ⟨init, body, rfl, hbody, hclosed⟩
      · exact Or.inl (List.forall_mem_cons.mpr ⟨hopen, hclosed⟩)
      · exact Or.inr ⟨piece :: init, body, rfl, hbody, List.forall_mem_cons.mpr ⟨hopen, hclosed⟩⟩

/-! ### Characters of pieces -/

/-- Pieces that tile a text take at least one byte each and follow one another. -/
theorem Tiles.pairwise_place {pieces : List Piece} (htiles : Tiles pieces) (offset : Nat) :
    (∀ piece ∈ place offset pieces, offset ≤ piece.span.start ∧
      piece.span.start < piece.span.stop ∧
      piece.span.stop ≤ offset + byteWidth (textOf pieces)) ∧
    (place offset pieces).Pairwise fun a b ↦ a.span.stop ≤ b.span.start := by
  induction pieces generalizing offset with
  | nil => exact ⟨List.forall_mem_nil _, List.Pairwise.nil⟩
  | cons piece pieces ih =>
    obtain ⟨hpiece, _, hrest⟩ := htiles
    obtain ⟨hbounds, hpairwise⟩ := ih hrest (offset + piece.width)
    have hpositive := Text.byteWidth_pos hpiece.text_ne_nil
    rw [← width_eq] at hpositive
    rw [place, List.forall_mem_cons, List.pairwise_cons, textOf_cons, Text.byteWidth_append,
      ← width_eq, ← Nat.add_assoc]
    refine ⟨⟨⟨Nat.le_refl _, by dsimp only; omega, Nat.le_add_right _ _⟩, fun other hmem ↦ ?_⟩,
      fun other hmem ↦ (hbounds other hmem).1, hpairwise⟩
    obtain ⟨hstart, hlt, hstop⟩ := hbounds other hmem
    exact ⟨by omega, hlt, hstop⟩

/-- The place of a piece is the range of bytes of its text. -/
theorem mem_place {offset : Nat} {pieces : List Piece} {piece : Spanned Piece}
    (hmem : piece ∈ place offset pieces) :
    ∃ front back, textOf pieces = front ++ (piece.value.text ++ back) ∧
      piece.span = ⟨offset + byteWidth front,
        offset + byteWidth front + byteWidth piece.value.text⟩ := by
  induction pieces generalizing offset with
  | nil => cases hmem
  | cons first pieces ih =>
    rcases List.mem_cons.mp hmem with rfl | hmem
    · exact ⟨[], textOf pieces, rfl, by rw [width_eq]; rfl⟩
    · obtain ⟨front, back, htext, hspan⟩ := ih hmem
      refine ⟨first.text ++ front, back, ?_, ?_⟩
      · rw [textOf_cons, htext, List.append_assoc]
      · rw [hspan, Text.byteWidth_append, width_eq, Nat.add_assoc]

/-- The characters of a tiled text are those of its pieces. -/
theorem charsAt_textOf (offset : Nat) (pieces : List Piece) :
    Text.charsAt offset (textOf pieces) =
      (place offset pieces).flatMap fun piece ↦ Text.charsAt piece.span.start piece.value.text := by
  induction pieces generalizing offset with
  | nil => rfl
  | cons piece pieces ih =>
    rw [textOf_cons, Text.charsAt_append, ih, place, List.flatMap_cons, ← width_eq]

end Piece

section Source

variable (source : String)

/-- The pieces of a source take at least one byte each, lie in the source and follow one
another. -/
theorem Piece.pairwise_ofSource :
    (∀ piece ∈ ofSource source, piece.span.start < piece.span.stop ∧
      piece.span.stop ≤ source.utf8ByteSize) ∧
    (ofSource source).Pairwise fun a b ↦ a.span.stop ≤ b.span.start := by
  obtain ⟨pieces, htiles, htext, hlocated⟩ := exists_located_eq_place source.toList
  obtain ⟨hbounds, hpairwise⟩ := htiles.pairwise_place 0
  rw [htext, Nat.zero_add, Text.byteWidth_toList] at hbounds
  rw [ofSource, hlocated]
  exact ⟨fun piece hmem ↦ (hbounds piece hmem).2, hpairwise⟩

/-- Two pieces of a source are the same or have no byte in common. -/
theorem Piece.disjoint_of_ne {a b : Spanned Piece} (ha : a ∈ ofSource source)
    (hb : b ∈ ofSource source) (hne : a ≠ b) : a.span.Disjoint b.span := by
  have hpairwise : (ofSource source).Pairwise fun a b ↦ a.span.Disjoint b.span :=
    (pairwise_ofSource source).2.imp Or.inl
  have : Std.Symm fun a b : Spanned Piece ↦ a.span.Disjoint b.span :=
    ⟨fun _ _ ↦ Span.Disjoint.symm⟩
  exact hpairwise.forall ha hb hne

/-- The characters of a source are those of its pieces. -/
theorem Piece.charsAt_eq_flatMap :
    Text.charsAt 0 source.toList =
      (ofSource source).flatMap fun piece ↦ Text.charsAt piece.span.start piece.value.text := by
  obtain ⟨pieces, _, htext, hlocated⟩ := exists_located_eq_place source.toList
  rw [ofSource, hlocated, ← htext, charsAt_textOf]

/-- The place of a piece of a source is the range of bytes of its text. -/
theorem Piece.mem_ofSource {piece : Spanned Piece} (hmem : piece ∈ ofSource source) :
    ∃ front back, source.toList = front ++ (piece.value.text ++ back) ∧
      piece.span = ⟨byteWidth front, byteWidth front + byteWidth piece.value.text⟩ := by
  obtain ⟨pieces, -, htext, hlocated⟩ := exists_located_eq_place source.toList
  rw [ofSource, hlocated] at hmem
  obtain ⟨front, back, hsplit, hspan⟩ := mem_place hmem
  rw [Nat.zero_add] at hspan
  exact ⟨front, back, htext ▸ hsplit, hspan⟩

theorem Piece.stop_of_mem_ofSource {piece : Spanned Piece} (hmem : piece ∈ ofSource source) :
    piece.span.stop = piece.span.start + byteWidth piece.value.text := by
  obtain ⟨front, back, -, hspan⟩ := mem_ofSource source hmem
  rw [hspan]

/-- A character of a source stands in a piece, and in no other piece. -/
theorem Piece.exists_covering {char : Spanned Char}
    (hmem : char ∈ Text.charsAt 0 source.toList) :
    ∃ piece ∈ ofSource source, piece.span.Covers char.span ∧ char.value ∈ piece.value.text ∧
      ∀ other ∈ ofSource source, ¬ char.span.Disjoint other.span → other = piece := by
  rw [charsAt_eq_flatMap] at hmem
  obtain ⟨piece, hpiece, hchar⟩ := List.mem_flatMap.mp hmem
  obtain ⟨hvalue, hstart, -, hstop⟩ := Text.mem_charsAt hchar
  have hcovers : piece.span.Covers char.span :=
    ⟨hstart, stop_of_mem_ofSource source hpiece ▸ hstop⟩
  refine ⟨piece, hpiece, hcovers, hvalue, fun other hother hmeets ↦ ?_⟩
  by_contra hne
  exact hmeets (hcovers.disjoint (disjoint_of_ne source hpiece hother (Ne.symm hne)))

/-- A source either ends with the string that is never closed, which is its only open string, or
has no open string. -/
theorem Piece.ofSource_closed_or_open :
    (Text.unclosed source.toList = [] ∧ ∀ piece ∈ ofSource source,
      piece.value.isOpenString = false) ∨
    ∃ (init : List (Spanned Piece)) (body : List Char),
      ofSource source =
        init ++ [⟨openString ('"' :: body), unclosedFrom source, source.utf8ByteSize⟩] ∧
      Text.unclosed source.toList = '"' :: body ∧ '"' ∉ body ∧
      ∀ piece ∈ init, piece.value.isOpenString = false := by
  obtain ⟨pieces, htiles, htext, hlocated⟩ := exists_located_eq_place source.toList
  rw [ofSource, hlocated]
  rcases htiles.closed_or_concat_open with hclosed | ⟨init, body, rfl, hbody, hclosed⟩
  · refine Or.inl ⟨?_, fun piece hmem ↦ hclosed piece.value (value_mem_of_mem_place hmem)⟩
    rw [Text.unclosed_eq_nil_iff, ← htext]
    exact even_count_quote_textOf htiles.wellFormed hclosed
  · -- Before the open string the quotes come in pairs, so it is its quote that is left over.
    have hinit := even_count_quote_textOf
      (fun piece hmem ↦ htiles.wellFormed piece (List.mem_append_left _ hmem)) hclosed
    have hunclosed : Text.unclosed source.toList = '"' :: body := by
      rw [← htext, textOf_append, Text.unclosed_append hinit, textOf_cons, textOf_nil,
        List.append_nil]
      exact Text.unclosed_quote hbody
    have hsize : source.utf8ByteSize = byteWidth (textOf init) + byteWidth ('"' :: body) := by
      rw [← Text.byteWidth_toList, ← htext, textOf_append, Text.byteWidth_append, textOf_cons,
        textOf_nil, List.append_nil, text]
    have hfrom : unclosedFrom source = byteWidth (textOf init) := by
      rw [unclosedFrom, hunclosed, hsize, Nat.add_sub_cancel]
    refine Or.inr ⟨place 0 init, body, ?_, hunclosed, hbody,
      fun piece hmem ↦ hclosed piece.value (value_mem_of_mem_place hmem)⟩
    rw [place_append, place, place, Nat.zero_add, hfrom, hsize, width]

/-- Where the unclosed string starts all other pieces have stopped. -/
theorem Piece.unclosedFrom_bounds {piece : Spanned Piece} (hmem : piece ∈ ofSource source) :
    if piece.value.isOpenString then piece.span.start = unclosedFrom source
    else piece.span.stop ≤ unclosedFrom source := by
  obtain ⟨hbounds, hpairwise⟩ := pairwise_ofSource source
  rcases ofSource_closed_or_open source with ⟨hnil, hclosed⟩ | ⟨init, body, hsource, -, -, hinit⟩
  · have hstop := (hbounds piece hmem).2
    simpa [hclosed piece hmem, unclosedFrom, hnil] using hstop
  · rw [hsource] at hmem hpairwise
    rcases List.mem_append.mp hmem with hpiece | hlast
    · have hstop := (List.pairwise_append.mp hpairwise).2.2 piece hpiece _ List.mem_cons_self
      simpa [hinit piece hpiece] using hstop
    · rw [List.mem_singleton] at hlast
      simp [hlast, isOpenString]

/-- The tokens of a scan are the pieces that are tokens. -/
theorem mem_tokens_scan_iff (settings : ScanSettings) (token : Spanned Token) :
    token ∈ (scan settings source).tokens ↔
      (⟨.token token.value, token.span⟩ : Spanned Piece) ∈ Piece.ofSource source := by
  rw [tokens_scan, List.mem_filterMap]
  constructor
  · rintro ⟨⟨value, span⟩, hmem, hvalue⟩
    cases value <;> cases hvalue
    exact hmem
  · exact fun hmem ↦ ⟨_, hmem, rfl⟩

end Source

/-! ### Skipped characters -/

/-- The span meets no token and does not lie behind a quote that is never closed. -/
def Span.Skipped (source : String) (tokens : List (Spanned Token)) (span : Span) : Prop :=
  span.stop ≤ unclosedFrom source ∧ ∀ token ∈ tokens, span.Disjoint token.span

instance (source : String) (tokens : List (Spanned Token)) :
    DecidablePred (Span.Skipped source tokens) :=
  fun _ ↦ inferInstanceAs (Decidable (_ ∧ _))

/-- The character that a piece is, with its place, if the piece is neither a token nor an open
string. -/
def Piece.skippedChar? (piece : Spanned Piece) : Option (Spanned Char) :=
  match piece.value with
  | separator c => some ⟨c, piece.span⟩
  | stray c => some ⟨c, piece.span⟩
  | _ => none

/-- The character outside every class that a piece is, with its place, if it is one. -/
def Piece.strayChar? (piece : Spanned Piece) : Option (Spanned Char) :=
  match piece.value with
  | stray c => some ⟨c, piece.span⟩
  | _ => none

/-- A piece that is neither a token nor an open string meets no token and stands before the
unclosed string. -/
theorem Piece.skipped_of_mem (settings : ScanSettings) {source : String} {piece : Spanned Piece}
    (hmem : piece ∈ ofSource source) (hclosed : piece.value.isOpenString = false)
    (hother : spannedToken? piece = none) :
    piece.span.Skipped source (scan settings source).tokens := by
  have hstop := unclosedFrom_bounds source hmem
  rw [if_neg (by simp [hclosed])] at hstop
  refine ⟨hstop, fun token htoken ↦ ?_⟩
  rw [mem_tokens_scan_iff] at htoken
  refine disjoint_of_ne source hmem htoken ?_
  rintro rfl
  cases hother

/-- The skipped characters of a source are the pieces of it that are single characters and no
tokens. -/
theorem Piece.filter_skipped (settings : ScanSettings) (source : String) :
    (Text.charsAt 0 source.toList).filter
        (fun char ↦ char.span.Skipped source (scan settings source).tokens) =
      (ofSource source).filterMap skippedChar? := by
  rw [charsAt_eq_flatMap, List.filter_flatMap, List.filterMap_eq_flatMap_toList]
  refine List.flatMap_congr fun piece hpiece ↦ ?_
  have hstop := stop_of_mem_ofSource source hpiece
  have hfrom := unclosedFrom_bounds source hpiece
  have hskipped := skipped_of_mem settings hpiece
  obtain ⟨value, start, stop⟩ := piece
  dsimp only at hstop hfrom hskipped ⊢
  cases value with
  | token t =>
    -- No character of a token is skipped, because it meets that token.
    refine List.filter_eq_nil_iff.mpr fun char hchar hskip ↦ ?_
    obtain ⟨-, hstart, hlt, hend⟩ := Text.mem_charsAt hchar
    have hcovers : Span.Covers ⟨start, stop⟩ char.span := ⟨hstart, hstop ▸ hend⟩
    have htoken := (mem_tokens_scan_iff source settings ⟨t, start, stop⟩).mpr hpiece
    exact hcovers.not_disjoint hlt ((of_decide_eq_true hskip).2 _ htoken)
  | separator c | stray c =>
    have hchar : Text.charsAt start [c] = [⟨c, start, stop⟩] := by simp [Text.charsAt, hstop, text]
    rw [text, hchar]
    exact List.filter_cons_of_pos (decide_eq_true (hskipped rfl rfl))
  | openString cs =>
    -- No character of the open string is skipped, because it stops behind the unclosed quote.
    refine List.filter_eq_nil_iff.mpr fun char hchar hskip ↦ ?_
    obtain ⟨-, hstart, hlt, -⟩ := Text.mem_charsAt hchar
    have hbefore := (of_decide_eq_true hskip).1
    have hopen : start = unclosedFrom source := hfrom
    omega

/-- The skipped characters of a class in a source with the given tokens, in order. -/
def skippedChars (cls : CharClass) (source : String) (tokens : List (Spanned Token)) :
    List (Spanned Char) :=
  (Text.charsAt 0 source.toList).filter fun char ↦
    char.span.Skipped source tokens ∧ CharClass.of char.value = cls

theorem skippedChars_scan (settings : ScanSettings) (cls : CharClass) (source : String) :
    skippedChars cls source (scan settings source).tokens =
      ((Piece.ofSource source).filterMap Piece.skippedChar?).filter
        (fun char ↦ CharClass.of char.value = cls) := by
  rw [← Piece.filter_skipped settings, List.filter_filter, skippedChars]
  simp only [Bool.decide_and, Bool.and_comm]

/-- The skipped characters outside every class are the pieces that are stray. -/
theorem skippedChars_other (settings : ScanSettings) (source : String) :
    skippedChars .other source (scan settings source).tokens =
      (Piece.ofSource source).filterMap Piece.strayChar? := by
  rw [skippedChars_scan, List.filter_filterMap]
  refine List.filterMap_congr fun piece hpiece ↦ ?_
  have hwell := Piece.wellFormed_of_mem_located piece hpiece
  obtain ⟨value, span⟩ := piece
  cases value with
  | token t => rfl
  | separator c =>
    have hclass : CharClass.of c = .whitespace := hwell
    simp [Piece.skippedChar?, Piece.strayChar?, hclass]
  | stray c =>
    have hclass : CharClass.of c = .other := hwell
    simp [Piece.skippedChar?, Piece.strayChar?, hclass]
  | openString cs => rfl

/-- There are as many skipped separators as pieces that are separators. -/
theorem length_skippedChars_whitespace (settings : ScanSettings) (source : String) :
    (skippedChars .whitespace source (scan settings source).tokens).length =
      (Piece.ofSource source).countP (·.value.isSeparator) := by
  rw [skippedChars_scan, List.filter_filterMap, List.length_filterMap_eq_countP]
  refine List.countP_congr fun piece hpiece ↦ ?_
  have hwell := Piece.wellFormed_of_mem_located piece hpiece
  obtain ⟨value, span⟩ := piece
  cases value with
  | token t => simp [Piece.skippedChar?, Piece.isSeparator]
  | separator c =>
    have hclass : CharClass.of c = .whitespace := hwell
    simp [Piece.skippedChar?, Piece.isSeparator, hclass]
  | stray c =>
    have hclass : CharClass.of c = .other := hwell
    simp [Piece.skippedChar?, Piece.isSeparator, hclass]
  | openString cs => simp [Piece.skippedChar?, Piece.isSeparator]

end Lexeme
