import Lexeme.Log.Memory
import Lexeme.Proofs.BuildLimits
import Mathlib.Data.List.DropRight

/-!
# The latest events

A memory is read through the list of its events. An event is put behind the others, and of the list
that comes of it the memory keeps as many of the last ones as there is room for
(`Log.Memory.toList_push`). After any calls a memory holds the last of the events that were logged
since it was cleared, as many of them as there is room for (`Log.Memory.toList_run`), and whatever is
counted or looked up in it is counted or looked up among these (`Log.Memory.run_keeps_latest`).
-/

set_option autoImplicit false
set_option relaxedAutoImplicit false

namespace Lexeme.Log.Memory

/-! ### One call -/

/-- An event is put behind the others, and the last events stay. -/
theorem toList_push (memory : Memory) (event : Event) :
    (memory.push event).toList =
      (memory.toList ++ [event]).rtake Limits.current.logBufferSize := by
  have hpos := Limits.buildable_current.logBufferSize_pos
  have hlength := memory.length_toList
  obtain ⟨room, hroom⟩ : ∃ room, Limits.current.logBufferSize = room + 1 :=
    ⟨_, (Nat.succ_pred_eq_of_pos hpos).symm⟩
  rw [push, hroom, List.rtake_concat_succ, List.rtake, hlength]
  split_ifs with hfull
  · have hnone : memory.count - room = 0 := by omega
    rw [toList_append, hnone, List.drop_zero]
  · have hdropped : memory.count - (room + 1) + 1 = memory.count - room := by omega
    rw [toList_append, toList_drain, hdropped]

/-- Of the last events of a list, with one more behind them, the last ones are those of the whole
list. -/
theorem rtake_rtake_concat {α : Type} (values : List α) (value : α) (limit : Nat) :
    (values.rtake limit ++ [value]).rtake limit = (values ++ [value]).rtake limit := by
  cases limit with
  | zero => simp [List.rtake]
  | succ room =>
    rw [List.rtake_concat_succ, List.rtake_concat_succ, List.rtake, List.rtake, List.rtake,
      List.drop_drop, List.length_drop]
    congr 2
    omega

/-! ### Calls one after the other -/

/-- The event that a call logs. -/
def Call.event? : Call → Option Event
  | log event => some event
  | clear => none

/-- The events logged since the last time that the memory was cleared. -/
def Call.sinceClear (calls : List Call) : List Event :=
  (calls.rtakeWhile fun call ↦ call.event?.isSome).filterMap event?

theorem Call.sinceClear_log (calls : List Call) (event : Event) :
    sinceClear (calls ++ [log event]) = sinceClear calls ++ [event] := by
  rw [sinceClear, List.rtakeWhile_concat_pos _ _ _ rfl, List.filterMap_append]
  rfl

theorem Call.sinceClear_clear (calls : List Call) : sinceClear (calls ++ [clear]) = [] := by
  rw [sinceClear, List.rtakeWhile_concat_neg _ _ _ Bool.false_ne_true]
  rfl

theorem run_concat (calls : List Call) (call : Call) :
    run (calls ++ [call]) = (run calls).perform call := by
  rw [run, run, List.foldl_append, List.foldl_cons, List.foldl_nil]

/-- A memory holds the last of the events logged since it was cleared. -/
theorem toList_run (calls : List Call) :
    (run calls).toList = (Call.sinceClear calls).rtake Limits.current.logBufferSize := by
  induction calls using List.reverseRecOn with
  | nil => rfl
  | append_singleton calls call ih =>
    rw [run_concat]
    cases call with
    | log event => rw [perform, toList_push, ih, rtake_rtake_concat, Call.sinceClear_log]
    | clear => rw [perform, Call.sinceClear_clear, List.rtake_nil]; rfl

/-- One more event drives out one event at most. -/
theorem toList_push_run (calls : List Call) (event : Event) :
    ∃ dropped, dropped.length ≤ 1 ∧
      (run calls).toList ++ [event] = dropped ++ ((run calls).push event).toList := by
  have hlength : (run calls).toList.length ≤ Limits.current.logBufferSize := by
    rw [toList_run, List.rtake, List.length_drop]
    omega
  rw [toList_push, List.rtake]
  refine ⟨_, ?_, (List.take_append_drop _ _).symm⟩
  rw [List.length_take, List.length_append, List.length_singleton]
  omega

/-! ### Counting what is kept -/

/-- Every event has one level. -/
theorem countP_levels (events : List Event) :
    events.length =
      events.countP (·.level == .error) + events.countP (·.level == .warning) +
        events.countP (·.level == .info) + events.countP (·.level == .debug) := by
  induction events with
  | nil => rfl
  | cons event events ih =>
    simp only [List.countP_cons, List.length_cons, ih]
    cases event.level <;> simp <;> omega

theorem total_eq (memory : Memory) :
    memory.summary.total = memory.summary.errors + memory.summary.warnings +
      memory.summary.infos + memory.summary.debugs := by
  change memory.count = _
  rw [← length_toList, countP_levels]
  rfl

/-- Critical events are errors. -/
theorem critical_le_errors (memory : Memory) :
    memory.summary.critical ≤ memory.summary.errors :=
  List.countP_mono_left fun _ _ hcritical ↦ (Bool.and_eq_true_iff.mp hcritical).1

theorem length_atLevel (memory : Memory) (level : Level) :
    (memory.atLevel level).length = memory.countLevel level :=
  List.countP_eq_length_filter.symm

theorem has_iff (memory : Memory) (level : Level) (code : Code) :
    memory.has level code = true ↔
      ∃ event ∈ memory.toList, event.level = level ∧ event.code = code := by
  simp [has]

/-- After any calls a memory holds the last of the events that were logged since it was cleared, in
order and as many of them as there is room for; one more event drives out one at most. The numbers
of events by level add up to the number of all, critical events are errors, the events of a level are
those among the kept ones, in order and as many as are counted, and an error is found by its code
exactly when one is kept. -/
theorem run_keeps_latest (calls : List Call) :
    let memory := run calls
    let summary := memory.summary
    let logged := Call.sinceClear calls
    let limit := Limits.current.logBufferSize
    let kept := logged.rtake (min logged.length limit)
    memory.toList = kept ∧
    memory.count = min logged.length limit ∧
    memory.count ≤ limit ∧
    (∀ event, ∃ dropped, dropped.length ≤ 1 ∧
      memory.toList ++ [event] = dropped ++ (memory.push event).toList) ∧
    summary.total = memory.count ∧
    summary.total = summary.errors + summary.warnings + summary.infos + summary.debugs ∧
    summary.critical ≤ summary.errors ∧
    (memory.atLevel .error).length = summary.errors ∧
    (memory.atLevel .warning).length = summary.warnings ∧
    (∀ level, memory.atLevel level = kept.filter (·.level = level)) ∧
    ∀ code, memory.has .error code = true ↔
      ∃ event ∈ kept, event.level = .error ∧ event.code = code := by
  intro memory summary logged limit kept
  have hkept : memory.toList = kept := by
    have hsame : logged.length - min logged.length limit = logged.length - limit := by omega
    change memory.toList = logged.drop (logged.length - min logged.length limit)
    rw [hsame]
    exact toList_run calls
  have hcount : memory.count = min logged.length limit := by
    rw [← length_toList, hkept]
    change (logged.drop (logged.length - min logged.length limit)).length = _
    rw [List.length_drop]
    omega
  refine ⟨hkept, hcount, hcount ▸ Nat.min_le_right _ _, toList_push_run calls,
    rfl, total_eq memory, critical_le_errors memory, length_atLevel memory .error,
    length_atLevel memory .warning, fun level ↦ ?_, fun code ↦ ?_⟩
  · rw [← hkept]
    exact List.filter_congr fun event _ ↦ beq_eq_decide ..
  · rw [← hkept]
    exact has_iff memory .error code

end Lexeme.Log.Memory
