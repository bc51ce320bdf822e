import Lexeme.Proofs.DiagnosticBuffer
import Lexeme.Proofs.TokenAt
import Lexeme.Scan.Cursor

/-!
# Steps of a cursor

At an offset from which a text follows, one step of a cursor passes the next piece of that text
(`Cursor.step_eq`), and so all steps together pass all pieces (`Cursor.run_eq`). After one more step
such a text follows again (`Cursor.Sound.step`). In every state that the steps reach
(`Cursor.ReachesIn`) the cursor therefore lies between two characters, no step meets a fault, and
there are no more steps than characters (`Cursor.steps_advance_between_characters`).
-/

set_option autoImplicit false
set_option relaxedAutoImplicit false

namespace Lexeme

open Text (byteWidth Follows)

/-- A text that is not empty is its next piece with what follows the piece. -/
theorem Piece.text_append_next (c : Char) (cs : List Char) :
    (next c cs).1.text ++ (next c cs).2 = c :: cs :=
  ((next_eq_iff c cs _ _).mp rfl).1.symm

theorem Piece.width_next_pos (c : Char) (cs : List Char) : 0 < (next c cs).1.width := by
  rw [width_eq]
  exact Text.byteWidth_pos ((next_eq_iff c cs _ _).mp rfl).2.1.text_ne_nil

/-- A trouble has the place of its piece. -/
theorem Diagnostic.span_of_ofPiece? {piece : Spanned Piece} {diagnostic : Diagnostic}
    (hfound : ofPiece? piece = some diagnostic) : diagnostic.span = piece.span := by
  rw [ofPiece?] at hfound
  split at hfound
  all_goals cases hfound
  all_goals rfl

namespace Cursor

variable (settings : ScanSettings) {source : String} {cursor : Cursor}

/-! ### One step -/

/-- Behind a piece at the cursor, with the piece passed. -/
def behind (cursor : Cursor) (piece : Piece) : Cursor :=
  let stop := cursor.offset + piece.width
  ⟨stop, cursor.progress.pass settings ⟨piece, cursor.offset, stop⟩⟩

/-- Behind the next piece stands what follows the piece. -/
theorem follows_behind (cursor : Cursor) {c : Char} {cs : List Char}
    (hat : Follows source cursor.offset (c :: cs)) :
    Follows source (cursor.behind settings (Piece.next c cs).1).offset (Piece.next c cs).2 := by
  rw [behind, Piece.width_eq]
  rw [← Piece.text_append_next c cs] at hat
  exact hat.advance

theorem char?_eq {rest : List Char} (hat : Follows source cursor.offset rest) :
    cursor.char? source = rest.head? := by
  rw [char?, hat.slice?_size]
  rfl

theorem length_span_add (offset width : Nat) : Span.length ⟨offset, offset + width⟩ = width :=
  Nat.add_sub_cancel_left offset width

theorem spanTo_add (cursor : Cursor) (width : Nat) :
    cursor.spanTo (cursor.offset + width) = .ok ⟨cursor.offset, cursor.offset + width⟩ :=
  if_pos (Nat.le_add_right _ _)

/-- The text at a place is what stands there. -/
theorem report_eq (kind : DiagnosticKind) {part rest : List Char}
    (hat : Follows source cursor.offset (part ++ rest)) (troubles : DiagnosticBuffer) :
    report source kind ⟨cursor.offset, cursor.offset + byteWidth part⟩ troubles =
      troubles.push (.make kind ⟨cursor.offset, cursor.offset + byteWidth part⟩ part) := by
  rw [report, Span.slice?, hat.slice?]
  simp

theorem take_eq (token : Token) :
    cursor.take settings token (cursor.offset + token.width) =
      .ok (cursor.behind settings (.token token)) := by
  rw [take, bind_of_eq_ok (spanTo_add cursor token.width)]
  rfl

theorem skip_eq (c : Char) : cursor.skip c = cursor.behind settings (.separator c) := by
  have hlength := length_span_add cursor.offset c.utf8Size
  simp only [behind, ScanProgress.pass, ScanMetrics.record, Piece.width, hlength]
  rfl

theorem drop_eq {c : Char} {cs : List Char} (hat : Follows source cursor.offset ([c] ++ cs)) :
    cursor.drop source c = .ok (cursor.behind settings (.stray c)) := by
  have hlength := length_span_add cursor.offset c.utf8Size
  have hreport := report_eq .unrecognizedCharacter hat cursor.progress.troubles
  rw [Text.byteWidth_cons, Text.byteWidth_nil, Nat.add_zero] at hreport
  rw [drop, bind_of_eq_ok (spanTo_add cursor c.utf8Size)]
  simp only [behind, ScanProgress.pass, ScanMetrics.record, Piece.width, hlength, hreport]
  rfl

theorem absorb_eq {cs : List Char} (hat : Follows source cursor.offset cs) :
    cursor.absorb source = .ok (cursor.behind settings (.openString cs)) := by
  have hsize := hat.add_byteWidth
  rw [← List.append_nil cs] at hat
  have hreport := report_eq .unterminatedString hat cursor.progress.troubles
  rw [absorb, ← hsize, bind_of_eq_ok (spanTo_add cursor (byteWidth cs))]
  simp only [hreport]
  rfl

/-- The reader of the kind that a character starts finds the next piece: a token, or no token where
the next piece is a string that is never closed. -/
theorem ofKind?_cases {kind : TokenKind} {start : Nat} {c : Char} {cs : List Char}
    (hclass : CharClass.of c = kind.startClass) (hat : Follows source start (c :: cs)) :
    (∃ token, TokenAt.ofKind? kind source start = .ok (some (token, start + token.width)) ∧
      (Piece.next c cs).1 = .token token) ∨
    (kind = .string ∧ TokenAt.ofKind? kind source start = .ok none ∧
      (Piece.next c cs).1 = .openString (c :: cs)) := by
  have hagrees := TokenAt.ofKind?_agrees hclass hat
  have hnext := Piece.next_of_startClass cs hclass
  cases htaken : Munch.ofKind? kind (c :: cs) with
  | none =>
    rw [htaken] at hagrees hnext
    refine Or.inr ⟨?_, hagrees, congrArg Prod.fst hnext⟩
    cases kind with
    | string => rfl
    | _ => cases htaken
  | some taken =>
    rw [htaken] at hagrees hnext
    obtain ⟨stop, hfound, hstop⟩ := hagrees
    have hbehind := hat
    rw [← Piece.text_append_next c cs, hnext] at hbehind
    have hwidth : taken.1.width = byteWidth (Piece.token taken.1).text :=
      (Piece.token taken.1).width_eq
    obtain rfl : stop = start + taken.1.width := hwidth ▸ hstop.offset_eq hbehind.advance
    exact Or.inl ⟨taken.1, hfound, congrArg Prod.fst hnext⟩

/-- The step of a kind at a character that starts one passes the next piece. -/
theorem takeKind_eq {kind : TokenKind} {c : Char} {cs : List Char}
    (hclass : CharClass.of c = kind.startClass) (hat : Follows source cursor.offset (c :: cs)) :
    cursor.takeKind settings source kind =
      .ok (cursor.behind settings (Piece.next c cs).1) := by
  rw [takeKind]
  rcases ofKind?_cases hclass hat with ⟨token, hread, hnext⟩ | ⟨-, hread, hnext⟩
  · rw [bind_of_eq_ok hread, hnext]
    exact take_eq settings token
  · rw [bind_of_eq_ok hread, hnext]
    exact absorb_eq settings hat

/-- One step passes the next piece. -/
theorem step_eq (cursor : Cursor) {c : Char} {cs : List Char}
    (hat : Follows source cursor.offset (c :: cs)) :
    cursor.step settings source = .ok (cursor.behind settings (Piece.next c cs).1) := by
  rw [step, char?_eq hat]
  dsimp only [List.head?_cons]
  have hkind (kind : TokenKind) (hclass : CharClass.of c = kind.startClass) :=
    takeKind_eq settings hclass hat
  cases hclass : CharClass.of c with
  | digit => exact hkind .number hclass
  | letter => exact hkind .word hclass
  | quote => exact hkind .string hclass
  | operator => exact hkind .operator hclass
  | delimiter => exact hkind .delimiter hclass
  | whitespace =>
    rw [Piece.next, hclass]
    exact congrArg Except.ok (skip_eq settings c)
  | other =>
    rw [Piece.next, hclass]
    exact drop_eq settings hat

theorem offset_lt_behind (cursor : Cursor) (c : Char) (cs : List Char) :
    cursor.offset < (cursor.behind settings (Piece.next c cs).1).offset :=
  Nat.lt_add_of_pos_right (Piece.width_next_pos c cs)

/-- How a step leads to the next state when `c` is the character at the cursor. -/
inductive Moves (settings : ScanSettings) (source : String) (cursor : Cursor) (c : Char)
    (next : Cursor) : Prop where
  /-- The character is passed over by itself, and no reader is called. -/
  | alone (hclass : CharClass.of c = .whitespace ∨ CharClass.of c = .other)
      (hnext : next.offset = cursor.offset + c.utf8Size)
  /-- The character starts a token of a kind, and the reader of that kind finds one. -/
  | read (kind : TokenKind) (token : Token) (hclass : CharClass.of c = kind.startClass)
      (hstep : cursor.step settings source = cursor.takeKind settings source kind)
      (hread : TokenAt.ofKind? kind source cursor.offset = .ok (some (token, next.offset)))
  /-- The character is a quote, and the reader of strings finds no other quote. -/
  | unclosed (hclass : CharClass.of c = .quote)
      (hstep : cursor.step settings source = cursor.takeKind settings source .string)
      (hread : TokenAt.ofKind? .string source cursor.offset = .ok none)
      (hnext : next.offset = source.utf8ByteSize)

/-- A step calls a reader only at a character that starts a token of its kind, and ends where the
reader has stopped. -/
theorem moves_behind {c : Char} {cs : List Char} (hat : Follows source cursor.offset (c :: cs)) :
    Moves settings source cursor c (cursor.behind settings (Piece.next c cs).1) := by
  have hkind (kind : TokenKind) (hclass : CharClass.of c = kind.startClass) :
      Moves settings source cursor c (cursor.behind settings (Piece.next c cs).1) := by
    have hstep : cursor.step settings source = cursor.takeKind settings source kind :=
      (step_eq settings cursor hat).trans (takeKind_eq settings hclass hat).symm
    rcases ofKind?_cases hclass hat with ⟨token, hread, hnext⟩ | ⟨rfl, hread, hnext⟩
    · exact .read kind token hclass hstep (by rw [hread, hnext]; rfl)
    · exact .unclosed hclass hstep hread (by rw [hnext]; exact hat.add_byteWidth)
  cases hclass : CharClass.of c with
  | digit => exact hkind .number hclass
  | letter => exact hkind .word hclass
  | quote => exact hkind .string hclass
  | operator => exact hkind .operator hclass
  | delimiter => exact hkind .delimiter hclass
  | whitespace =>
    refine .alone (.inl hclass) ?_
    rw [Piece.next, hclass]
    rfl
  | other =>
    refine .alone (.inr hclass) ?_
    rw [Piece.next, hclass]
    rfl

/-- The places of the tokens and the troubles that the cursor has found and keeps. -/
def spans (cursor : Cursor) : List Span :=
  cursor.progress.tokens.map (·.span) ++ cursor.progress.troubles.stored.map (·.span)

/-- A step keeps the place of the piece that it passes, or none. -/
theorem mem_spans_behind {piece : Piece} {span : Span}
    (hmem : span ∈ (cursor.behind settings piece).spans) :
    span ∈ cursor.spans ∨ span = ⟨cursor.offset, cursor.offset + piece.width⟩ := by
  rcases List.mem_append.mp hmem with htoken | htrouble
  · cases piece with
    | token token =>
      rcases List.mem_cons.mp htoken with rfl | hearlier
      · exact Or.inr rfl
      · exact Or.inl (List.mem_append_left _ hearlier)
    | _ => exact Or.inl (List.mem_append_left _ htoken)
  · obtain ⟨trouble, hstored, rfl⟩ := List.mem_map.mp htrouble
    rcases DiagnosticBuffer.mem_stored_pushPiece hstored with hearlier | hnew
    · exact Or.inl (List.mem_append_right _ (List.mem_map_of_mem hearlier))
    · exact Or.inr (Diagnostic.span_of_ofPiece? hnew)

/-! ### All steps -/

/-- The steps up to the end of a source pass all pieces of what stands there. -/
theorem run_eq (cursor : Cursor) {rest : List Char} (hat : Follows source cursor.offset rest) :
    cursor.run settings source = .ok ⟨source.utf8ByteSize,
      Piece.fold (ScanProgress.pass settings) cursor.progress cursor.offset rest⟩ := by
  obtain ⟨offset, progress⟩ := cursor
  dsimp only at hat ⊢
  fun_induction Piece.fold (ScanProgress.pass settings) progress offset rest with
  | case1 progress offset =>
    have hend : offset = source.utf8ByteSize := hat.add_byteWidth
    rw [run, if_neg (Nat.not_lt.mpr hend.ge), hend]
  | case2 progress offset c cs found stop ih =>
    have hinside := hat.lt_size_iff.mpr (List.cons_ne_nil c cs)
    have hstep := step_eq settings ⟨offset, progress⟩ hat
    have hforward := offset_lt_behind settings ⟨offset, progress⟩ c cs
    rw [run, if_pos hinside, hstep]
    dsimp only
    rw [if_pos hforward]
    exact ih (follows_behind settings ⟨offset, progress⟩ hat)

/-! ### The states that are reached -/

/-- What holds of a cursor after some number of steps: from it follows a text that has no more
characters than are left of the source when each step has taken one, and no place that it has found
is empty or ends behind it. -/
structure Sound (source : String) (steps : Nat) (cursor : Cursor) : Prop where
  follows : ∃ rest, Follows source cursor.offset rest ∧ steps + rest.length ≤ source.length
  spans : ∀ span ∈ cursor.spans, span.start < span.stop ∧ span.stop ≤ cursor.offset

theorem sound_start (source : String) : Sound source 0 .start :=
  ⟨⟨source.toList, .start source, by simp [String.length_toList]⟩, List.forall_mem_nil _⟩

/-- The next piece takes at least one character, and its place ends at the new cursor. -/
theorem Sound.step {settings : ScanSettings} {steps : Nat} {next : Cursor}
    (hsound : Sound source steps cursor) (hinside : cursor.offset < source.utf8ByteSize)
    (hstep : cursor.step settings source = .ok next) : Sound source (steps + 1) next := by
  obtain ⟨⟨rest, hat, hlength⟩, hspans⟩ := hsound
  obtain ⟨c, cs, rfl⟩ := List.exists_cons_of_ne_nil (hat.lt_size_iff.mp hinside)
  rw [step_eq settings cursor hat, Except.ok.injEq] at hstep
  subst hstep
  constructor
  · refine ⟨_, follows_behind settings cursor hat, ?_⟩
    have hle := Piece.length_next_le c cs
    rw [List.length_cons] at hlength
    omega
  · have hforward := offset_lt_behind settings cursor c cs
    intro span hmem
    rcases mem_spans_behind settings hmem with hearlier | rfl
    · obtain ⟨hlt, hle⟩ := hspans span hearlier
      exact ⟨hlt, hle.trans hforward.le⟩
    · exact ⟨hforward, le_rfl⟩

/-- The state after some number of steps from the start of a source; a step is made only before the
end of the source. -/
inductive ReachesIn (settings : ScanSettings) (source : String) : Nat → Cursor → Prop where
  | start : ReachesIn settings source 0 .start
  | step {steps : Nat} {cursor next : Cursor} (hreaches : ReachesIn settings source steps cursor)
      (hinside : cursor.offset < source.utf8ByteSize)
      (hstep : cursor.step settings source = .ok next) : ReachesIn settings source (steps + 1) next

namespace ReachesIn

variable {settings : ScanSettings} {steps : Nat}

theorem sound (hreaches : ReachesIn settings source steps cursor) : Sound source steps cursor := by
  induction hreaches with
  | start => exact sound_start source
  | step _ hinside hstep ih => exact ih.step hinside hstep

/-- The steps that are made up to the end of a source lead to a state that is reached. -/
theorem run (hreaches : ReachesIn settings source steps cursor) {final : Cursor}
    (hrun : cursor.run settings source = .ok final) :
    ∃ more, ReachesIn settings source (steps + more) final := by
  fun_induction Cursor.run settings source cursor generalizing steps with
  | case1 => cases hrun
  | case2 cursor hinside next hstep hforward ih =>
    obtain ⟨more, hmore⟩ := ih (hreaches.step hinside hstep) hrun
    exact ⟨1 + more, by rwa [← Nat.add_assoc]⟩
  | case3 => cases hrun
  | case4 cursor hend =>
    cases hrun
    exact ⟨0, hreaches⟩

end ReachesIn

/-- In every state that the steps of a scan reach, the cursor lies between two characters of the
source. Before the end there is a character at the cursor and the next step meets no fault: it moves
the cursor on, again to between two characters, and calls a reader only at a character that starts a
token of its kind. There are no more steps than characters, and the last one leads to the end of the
source with what a scan finds. -/
theorem steps_advance_between_characters (settings : ScanSettings) (source : String) :
    (∀ steps cursor, ReachesIn settings source steps cursor →
      steps ≤ source.length ∧ cursor.offset ≤ source.utf8ByteSize ∧
      String.Pos.Raw.IsValid source ⟨cursor.offset⟩ ∧
      (∀ span ∈ cursor.spans, span.start < span.stop ∧ span.stop ≤ cursor.offset) ∧
      (cursor.offset < source.utf8ByteSize → ∃ c next,
        cursor.char? source = some c ∧ cursor.step settings source = .ok next ∧
        cursor.offset < next.offset ∧ next.offset ≤ source.utf8ByteSize ∧
        String.Pos.Raw.IsValid source ⟨next.offset⟩ ∧ Moves settings source cursor c next)) ∧
    ∃ steps final, ReachesIn settings source steps final ∧
      final.offset = source.utf8ByteSize ∧ run settings source .start = .ok final ∧
      final.progress.output = scan settings source := by
  constructor
  · intro steps cursor hreaches
    obtain ⟨⟨rest, hat, hlength⟩, hspans⟩ := hreaches.sound
    refine ⟨(Nat.le_add_right _ _).trans hlength, hat.le_size, hat.isValid, hspans,
      fun hinside ↦ ?_⟩
    obtain ⟨c, cs, rfl⟩ := List.exists_cons_of_ne_nil (hat.lt_size_iff.mp hinside)
    have hbehind := follows_behind settings cursor hat
    exact ⟨c, _, char?_eq hat, step_eq settings cursor hat, offset_lt_behind settings cursor c cs,
      hbehind.le_size, hbehind.isValid, moves_behind settings hat⟩
  · have hrun := run_eq settings .start (.start source)
    obtain ⟨steps, hreaches⟩ := ReachesIn.start.run hrun
    exact ⟨_, _, hreaches, rfl, hrun, rfl⟩

end Cursor

end Lexeme
