import Lexeme.Proofs.BuildLimits
import Lexeme.Scan.Output
import Mathlib.Data.List.Induction

/-!
# What a buffer of troubles keeps

A buffer that has taken in troubles one after the other keeps the first of them, up to the limit of
the build, and counts the others (`DiagnosticBuffer.Holds`). One more push keeps this true
(`DiagnosticBuffer.Holds.push`), so it holds after any number of them
(`DiagnosticBuffer.Holds.foldl_push`), and after any calls for the troubles since everything was
taken out (`DiagnosticBuffer.holds_run`). Whatever is asked of a buffer is answered from these
troubles (`DiagnosticBuffer.run_keeps_first`); that a buffer which keeps none of them has taken in
none is due to the build, which accepts no limit of zero.
-/

set_option autoImplicit false
set_option relaxedAutoImplicit false

namespace Lexeme.DiagnosticBuffer

/-- The buffer has taken in these troubles: it keeps as many of the first as the limit allows, and
knows how many the others are. -/
structure Holds (buffer : DiagnosticBuffer) (troubles : List Diagnostic) : Prop where
  stored : buffer.stored = troubles.take Limits.current.maxDiagnostics
  suppressed : buffer.suppressed = troubles.length - Limits.current.maxDiagnostics

theorem holds_empty : empty.Holds [] :=
  ⟨rfl, rfl⟩

/-- The buffer keeps as many troubles as it has taken in, up to the limit. -/
theorem Holds.size_eq {buffer : DiagnosticBuffer} {troubles : List Diagnostic}
    (hholds : buffer.Holds troubles) :
    buffer.kept.size = min Limits.current.maxDiagnostics troubles.length := by
  rw [← List.length_take, ← hholds.stored, DiagnosticBuffer.stored, Array.length_toList]

/-- Taking in one more trouble. -/
theorem Holds.push {buffer : DiagnosticBuffer} {troubles : List Diagnostic}
    (hholds : buffer.Holds troubles) (diagnostic : Diagnostic) :
    (buffer.push diagnostic).Holds (troubles ++ [diagnostic]) := by
  have hsize := hholds.size_eq
  rw [DiagnosticBuffer.push]
  split
  · next hroom =>
    have hshort : troubles.length < Limits.current.maxDiagnostics := by omega
    constructor
    · have hstored := hholds.stored
      rw [List.take_of_length_le (by omega)] at hstored
      rw [List.take_of_length_le (by rw [List.length_append, List.length_singleton]; omega),
        ← hstored]
      exact Array.toList_push
    · have hsuppressed := hholds.suppressed
      simp only [List.length_append, List.length_singleton]
      omega
  · next hfull =>
    have hlong : Limits.current.maxDiagnostics ≤ troubles.length := by omega
    constructor
    · rw [List.take_append_of_le_length hlong]
      exact hholds.stored
    · have hsuppressed := hholds.suppressed
      simp only [List.length_append, List.length_singleton]
      omega

/-- A buffer that takes in more troubles, one after the other. -/
theorem Holds.foldl_push {buffer : DiagnosticBuffer} {troubles : List Diagnostic}
    (hholds : buffer.Holds troubles) (more : List Diagnostic) :
    (more.foldl DiagnosticBuffer.push buffer).Holds (troubles ++ more) := by
  induction more generalizing buffer troubles with
  | nil => simpa using hholds
  | cons diagnostic more ih =>
    have hnext := ih (hholds.push diagnostic)
    rwa [List.append_assoc, List.singleton_append] at hnext

/-- A buffer that has passed a piece keeps nothing else than before and the trouble of the piece. -/
theorem mem_stored_pushPiece {buffer : DiagnosticBuffer} {piece : Spanned Piece}
    {diagnostic : Diagnostic} (hmem : diagnostic ∈ (buffer.pushPiece piece).stored) :
    diagnostic ∈ buffer.stored ∨ Diagnostic.ofPiece? piece = some diagnostic := by
  rw [pushPiece] at hmem
  split at hmem
  · next found hfound =>
    rw [DiagnosticBuffer.push] at hmem
    split at hmem
    · rw [DiagnosticBuffer.stored, Array.toList_push] at hmem
      rcases List.mem_append.mp hmem with hearlier | hnew
      · exact Or.inl hearlier
      · exact Or.inr (List.mem_singleton.mp hnew ▸ hfound)
    · exact Or.inl hmem
  · exact Or.inl hmem

/-- Passing pieces pushes the troubles among them. -/
theorem foldl_pushPiece (buffer : DiagnosticBuffer) (pieces : List (Spanned Piece)) :
    pieces.foldl pushPiece buffer =
      (pieces.filterMap Diagnostic.ofPiece?).foldl DiagnosticBuffer.push buffer := by
  induction pieces generalizing buffer with
  | nil => rfl
  | cons piece pieces ih =>
    rw [List.foldl_cons, ih, List.filterMap_cons, pushPiece]
    cases Diagnostic.ofPiece? piece <;> rfl

/-- After passing pieces a buffer holds the troubles among them. -/
theorem holds_foldl_pushPiece (pieces : List (Spanned Piece)) :
    (pieces.foldl pushPiece empty).Holds (pieces.filterMap Diagnostic.ofPiece?) := by
  rw [foldl_pushPiece]
  exact holds_empty.foldl_push _

/-! ### Calls one after the other -/

/-- The troubles pushed by calls since everything was taken out. -/
def Call.pushed (calls : List Call) : List Diagnostic :=
  calls.foldl (fun pushed call ↦
    match call with
    | push diagnostic => pushed ++ [diagnostic]
    | intoParts => []) []

theorem Call.pushed_push (calls : List Call) (diagnostic : Diagnostic) :
    pushed (calls ++ [push diagnostic]) = pushed calls ++ [diagnostic] := by
  simp [pushed]

theorem Call.pushed_intoParts (calls : List Call) : pushed (calls ++ [intoParts]) = [] := by
  simp [pushed]

theorem run_concat (calls : List Call) (call : Call) :
    run (calls ++ [call]) = ((run calls).perform call).2 := by
  simp [run]

/-- After any calls a buffer holds the troubles pushed since everything was taken out. -/
theorem holds_run (calls : List Call) : (run calls).Holds (Call.pushed calls) := by
  induction calls using List.reverseRecOn with
  | nil => exact holds_empty
  | append_singleton calls call ih =>
    rw [run_concat]
    cases call with
    | push diagnostic =>
      rw [Call.pushed_push]
      exact ih.push diagnostic
    | intoParts =>
      rw [Call.pushed_intoParts]
      exact holds_empty

section Held

variable {buffer : DiagnosticBuffer} {troubles : List Diagnostic}

/-- A trouble is kept just if it is among the first that the limit allows. -/
theorem Holds.hasRoom_iff (hholds : buffer.Holds troubles) :
    buffer.hasRoom = true ↔ troubles.length + 1 ≤ Limits.current.maxDiagnostics := by
  have hsize := hholds.size_eq
  rw [hasRoom, decide_eq_true_iff]
  omega

theorem Holds.total_eq (hholds : buffer.Holds troubles) : buffer.total = troubles.length := by
  have hsize := hholds.size_eq
  have hsuppressed := hholds.suppressed
  rw [total]
  omega

theorem Holds.first?_eq (hholds : buffer.Holds troubles) : buffer.first? = troubles.head? := by
  have hpos := Limits.buildable_current.maxDiagnostics_pos
  rw [first?, ← Array.getElem?_toList, ← DiagnosticBuffer.stored, hholds.stored,
    List.getElem?_take_of_lt hpos, List.head?_eq_getElem?]

theorem Holds.isEmpty_iff (hholds : buffer.Holds troubles) :
    buffer.isEmpty = true ↔ troubles.length = 0 := by
  have hpos := Limits.buildable_current.maxDiagnostics_pos
  have hsize := hholds.size_eq
  rw [isEmpty, Array.isEmpty, decide_eq_true_iff]
  omega

end Held

/-- After any calls a buffer keeps the first of the troubles pushed since everything was taken out,
unchanged and in order, as many as the limit allows, and counts the others. It knows how many there
are in all, which is the first, and whether there is any; one more is kept just if it is not past
the limit; only a full buffer has counted others; and what is taken out is what was kept, with the
number of the others. -/
theorem run_keeps_first (calls : List Call) :
    let buffer := run calls
    let pushed := Call.pushed calls
    let limit := Limits.current.maxDiagnostics
    let kept := pushed.take (min pushed.length limit)
    let others := pushed.length - min pushed.length limit
    buffer.stored = kept ∧
    buffer.suppressed = others ∧
    buffer.total = pushed.length ∧
    buffer.first? = pushed.head? ∧
    (buffer.isEmpty = true ↔ pushed.length = 0) ∧
    (∀ diagnostic, (buffer.perform (.push diagnostic)).1 =
      .kept (decide (pushed.length + 1 ≤ limit))) ∧
    (0 < buffer.suppressed → buffer.stored.length = limit) ∧
    buffer.perform .intoParts = (.parts kept others, empty) := by
  intro buffer pushed limit kept others
  have hholds : buffer.Holds pushed := holds_run calls
  have hkept : buffer.stored = kept := by
    rw [hholds.stored, List.take_eq_take_iff]
    omega
  have hothers : buffer.suppressed = others := by
    rw [hholds.suppressed]
    omega
  refine ⟨hkept, hothers, hholds.total_eq, hholds.first?_eq, hholds.isEmpty_iff,
    fun diagnostic ↦ ?_, fun hpos ↦ ?_, ?_⟩
  · change Answer.kept buffer.hasRoom = _
    rw [Bool.eq_iff_iff.2 (hholds.hasRoom_iff.trans decide_eq_true_iff.symm)]
  · rw [hkept, List.length_take]
    omega
  · rw [← hkept, ← hothers]
    rfl

end Lexeme.DiagnosticBuffer
