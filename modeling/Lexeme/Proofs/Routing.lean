import Lexeme.Log.Recorder
import Mathlib.Data.List.FinRange

/-!
# The way of an event through a tree of sinks

Every leaf of a tree of sinks stands at the end of a path, and an event gets to it if the rank of
its level is at most that of each threshold on the path (`Log.Leaf.isReachedBy`). What a sink does
with an event is what the leaves that it reaches do with it, one after the other
(`Log.Sink.deliveries_eq`). A service lets an event pass if its rank is at most that of the threshold
at that time (`Log.Recorder.Call.passed`), so a sequence of calls hands each leaf those events that
pass and reach it, and nothing else is kept or printed (`Log.Recorder.run_routes`).
-/

set_option autoImplicit false
set_option relaxedAutoImplicit false

namespace Lexeme.Log

/-! ### Leaves -/

/-- What stands at the end of a path through a tree of sinks. -/
inductive Outlet where
  | console (threshold : Level)
  | structured (threshold : Level)
  | memory (position : Nat)
  deriving DecidableEq

/-- The line that an outlet prints when it is handed an event. -/
def Outlet.line? (event : Event) : Outlet → Option String
  | console threshold => if event.level.rank ≤ threshold.rank then some event.line else none
  | structured threshold => if event.level.rank ≤ threshold.rank then some event.jsonLine else none
  | memory _ => none

/-- What an outlet does when it is handed an event. -/
def Outlet.react (event : Event) : Outlet → List Delivery
  | memory position => [.remembered position]
  | outlet => ((outlet.line? event).map Delivery.printed).toList

/-- An outlet where it occurs in a tree, with the thresholds of the inner nodes above it. -/
structure Leaf where
  above : List Level
  outlet : Outlet

/-- Whether an event of a level gets to the leaf. -/
def Leaf.isReachedBy (leaf : Leaf) (level : Level) : Bool :=
  leaf.above.all (level.rank ≤ ·.rank)

/-- Every error gets to every leaf. -/
theorem Leaf.isReachedBy_error (leaf : Leaf) : leaf.isReachedBy .error = true :=
  List.all_eq_true.mpr fun _ _ ↦ decide_eq_true (Nat.zero_le _)

mutual

/-- The leaves of a sink under inner nodes with the given thresholds, in order. -/
def Sink.leavesUnder (above : List Level) : Sink → List Leaf
  | .console threshold => [⟨above, .console threshold⟩]
  | .structured threshold => [⟨above, .structured threshold⟩]
  | .memory position => [⟨above, .memory position⟩]
  | .multi threshold branches => branchLeavesUnder (above ++ [threshold]) branches

/-- The leaves of sinks under inner nodes with the given thresholds, one sink after the other. -/
def branchLeavesUnder (above : List Level) : List Sink → List Leaf
  | [] => []
  | sink :: sinks => sink.leavesUnder above ++ branchLeavesUnder above sinks

end

/-- The leaves of a tree of sinks, in order. -/
def Sink.leaves (sink : Sink) : List Leaf :=
  sink.leavesUnder []

/-- What is done with an event by those of some leaves that it reaches. -/
def reactions (event : Event) (leaves : List Leaf) : List Delivery :=
  (leaves.filter (·.isReachedBy event.level)).flatMap (·.outlet.react event)

theorem reactions_append (event : Event) (first second : List Leaf) :
    reactions event (first ++ second) = reactions event first ++ reactions event second := by
  rw [reactions, List.filter_append, List.flatMap_append]
  rfl

theorem reactions_singleton (event : Event) (above : List Level) (outlet : Outlet) :
    reactions event [⟨above, outlet⟩] =
      if above.all (event.level.rank ≤ ·.rank) then outlet.react event else [] := by
  by_cases habove : above.all (event.level.rank ≤ ·.rank) = true <;>
    simp [reactions, Leaf.isReachedBy, habove]

mutual

theorem Sink.reactions_leavesUnder (event : Event) (above : List Level) (sink : Sink) :
    reactions event (sink.leavesUnder above) =
      if above.all (event.level.rank ≤ ·.rank) then sink.deliveries event else [] := by
  cases sink with
  | console threshold =>
    rw [Sink.leavesUnder, reactions_singleton, Sink.deliveries, Outlet.react, Outlet.line?]
    · simp only [Level.admits_iff]
      split_ifs <;> rfl
    · exact fun _ ↦ Outlet.noConfusion
  | structured threshold =>
    rw [Sink.leavesUnder, reactions_singleton, Sink.deliveries, Outlet.react, Outlet.line?]
    · simp only [Level.admits_iff]
      split_ifs <;> rfl
    · exact fun _ ↦ Outlet.noConfusion
  | memory position => rw [Sink.leavesUnder, reactions_singleton, Sink.deliveries, Outlet.react]
  | multi threshold branches =>
    rw [Sink.leavesUnder, reactions_branchLeavesUnder, Sink.deliveries, List.all_append]
    by_cases habove : above.all (event.level.rank ≤ ·.rank) = true <;>
      simp [habove, Level.admits_iff]

theorem reactions_branchLeavesUnder (event : Event) (above : List Level) (branches : List Sink) :
    reactions event (branchLeavesUnder above branches) =
      if above.all (event.level.rank ≤ ·.rank) then branchDeliveries event branches else [] := by
  cases branches with
  | nil =>
    rw [branchLeavesUnder, branchDeliveries, ite_self]
    rfl
  | cons sink sinks =>
    rw [branchLeavesUnder, reactions_append, sink.reactions_leavesUnder,
      reactions_branchLeavesUnder, branchDeliveries]
    split_ifs
    · rfl
    · rfl

end

/-- A sink does with an event what the leaves do that it reaches. -/
theorem Sink.deliveries_eq (event : Event) (sink : Sink) :
    sink.deliveries event = reactions event sink.leaves :=
  (sink.reactions_leavesUnder event []).symm

/-! ### What the leaves are handed -/

/-- What a tree of sinks hands to its leaves, given by their numbers, when it is handed events: one
event after the other, and each to one leaf after the other. -/
def Sink.handings (sink : Sink) (events : List Event) : List (Fin sink.leaves.length × Event) :=
  events.flatMap fun event ↦
    ((List.finRange sink.leaves.length).filter fun number ↦
      sink.leaves[number].isReachedBy event.level).map (·, event)

/-- Each leaf is handed the events that get to it, in order. -/
theorem Sink.events_handings (sink : Sink) (events : List Event)
    (number : Fin sink.leaves.length) :
    ((sink.handings events).filter (·.1 = number)).map (·.2) =
      events.filter (sink.leaves[number].isReachedBy ·.level) := by
  have hnumber : (List.finRange sink.leaves.length).filter (· = number) = [number] := by
    rw [List.filter_eq, List.count_eq_one_of_mem (List.nodup_finRange _) (List.mem_finRange _)]
    rfl
  induction events with
  | nil => rfl
  | cons event events ih =>
    rw [handings, List.flatMap_cons, List.filter_append, List.map_append, ← handings, ih,
      List.filter_map, List.map_map]
    change ((List.filter _ _).filter (· = number)).map _ ++ _ = _
    rw [List.filter_comm, hnumber]
    rw [List.filter_cons, List.filter_cons]
    split_ifs <;> rfl

/-- What the leaves do with what they are handed is what the sink does. -/
theorem Sink.flatMap_deliveries (sink : Sink) (events : List Event) :
    (events.flatMap fun event ↦ (sink.deliveries event).map (·, event)) =
      (sink.handings events).flatMap fun handing ↦
        (sink.leaves[handing.1].outlet.react handing.2).map (·, handing.2) := by
  rw [handings, List.flatMap_assoc]
  refine List.flatMap_congr fun event _ ↦ ?_
  have hleaves : sink.leaves = (List.finRange sink.leaves.length).map (sink.leaves[·]) :=
    (List.map_getElem_finRange sink.leaves).symm
  rw [List.flatMap_map, deliveries_eq, reactions]
  conv_lhs => rw [hleaves, List.filter_map, List.flatMap_map]
  rw [List.map_flatMap]
  rfl

namespace Recorder

/-- Keeps what is delivered of events, one delivery after the other. -/
def keepAll (recorder : Recorder) (deliveries : List (Delivery × Event)) : Recorder :=
  deliveries.foldl (fun recorder delivery ↦ keep delivery.2 recorder delivery.1) recorder

/-- A memory takes in the events that are delivered to it, in order. -/
theorem memories_keepAll (recorder : Recorder) (deliveries : List (Delivery × Event)) :
    (recorder.keepAll deliveries).memories = recorder.memories.mapIdx fun position memory ↦
      ((deliveries.filter (·.1 = .remembered position)).map (·.2)).foldl Memory.push memory := by
  refine List.ext_getElem? fun position ↦ ?_
  rw [List.getElem?_mapIdx]
  induction deliveries generalizing recorder with
  | nil => exact Option.map_id'.symm
  | cons delivery deliveries ih =>
    obtain ⟨delivery, event⟩ := delivery
    change ((keep event recorder delivery).keepAll deliveries).memories[position]? = _
    rw [ih]
    cases delivery with
    | printed line => rfl
    | remembered target =>
      rw [keep, modifyMemory, List.getElem?_modify]
      by_cases htarget : target = position <;>
        cases recorder.memories[position]? <;> simp [htarget]

/-- The lines printed are those of the deliveries. -/
theorem lines_keepAll (recorder : Recorder) (deliveries : List (Delivery × Event)) :
    (recorder.keepAll deliveries).lines = recorder.lines ++ deliveries.filterMap (·.1.line?) := by
  induction deliveries generalizing recorder with
  | nil => exact (List.append_nil _).symm
  | cons delivery deliveries ih =>
    obtain ⟨delivery, event⟩ := delivery
    change ((keep event recorder delivery).keepAll deliveries).lines = _
    rw [ih]
    cases delivery with
    | printed line => simp [keep, lines, Delivery.line?]
    | remembered position => rfl

/-! ### Calls one after the other -/

/-- The event that a call logs. -/
def Call.event? : Call → Option Event
  | log event => some event
  | setThreshold _ => none

/-- The events of calls that a service lets pass, each by the threshold that the service has at that
time. -/
def Call.passed (threshold : Level) : List Call → List Event
  | [] => []
  | log event :: calls =>
    if event.level.rank ≤ threshold.rank then event :: passed threshold calls
    else passed threshold calls
  | setThreshold later :: calls => passed later calls

/-- No error is held back, whatever the thresholds. -/
theorem Call.errors_passed (threshold : Level) (calls : List Call) :
    (passed threshold calls).filter (·.level = .error) =
      (calls.filterMap event?).filter (·.level = .error) := by
  induction calls generalizing threshold with
  | nil => rfl
  | cons call calls ih =>
    cases call with
    | log event =>
      change (passed threshold (log event :: calls)).filter _ =
        (event :: calls.filterMap event?).filter _
      rw [passed]
      by_cases herror : event.level = .error
      · have hrank : event.level.rank ≤ threshold.rank := herror ▸ Nat.zero_le _
        rw [if_pos hrank, List.filter_cons, List.filter_cons, ih]
      · have hnot : decide (event.level = .error) = false := decide_eq_false herror
        rw [List.filter_cons, hnot, if_neg Bool.false_ne_true, ← ih threshold]
        split_ifs
        · rw [List.filter_cons, hnot, if_neg Bool.false_ne_true]
        · rfl
    | setThreshold later => exact ih later

/-- What is kept of deliveries does not depend on the service. -/
theorem keepAll_service (recorder : Recorder) (service : Service)
    (deliveries : List (Delivery × Event)) :
    { recorder with service }.keepAll deliveries =
      { recorder.keepAll deliveries with service } := by
  induction deliveries generalizing recorder with
  | nil => rfl
  | cons delivery deliveries ih =>
    obtain ⟨delivery, event⟩ := delivery
    cases delivery with
    | printed line => exact ih { recorder with printed := line :: recorder.printed }
    | remembered position => exact ih (recorder.modifyMemory position (·.push event))

theorem service_keepAll (recorder : Recorder) (deliveries : List (Delivery × Event)) :
    (recorder.keepAll deliveries).service = recorder.service :=
  (congrArg Recorder.service (recorder.keepAll_service recorder.service deliveries) :)

theorem record_eq (recorder : Recorder) (event : Event) :
    recorder.record event =
      recorder.keepAll ((recorder.service.deliveries event).map (·, event)) := by
  rw [record, keepAll, List.foldl_map]

/-- Calls keep what their events make the sinks deliver, and change only the threshold besides. -/
theorem exists_run_eq (recorder : Recorder) (calls : List Call) :
    ∃ threshold, recorder.run calls =
      { recorder.keepAll ((Call.passed recorder.service.threshold calls).flatMap fun event ↦
          (recorder.service.sink.deliveries event).map (·, event)) with
        service := ⟨recorder.service.sink, threshold⟩ } := by
  induction calls generalizing recorder with
  | nil => exact ⟨recorder.service.threshold, rfl⟩
  | cons call calls ih =>
    cases call with
    | log event =>
      obtain ⟨threshold, hrun⟩ := ih (recorder.record event)
      refine ⟨threshold, ?_⟩
      change (recorder.record event).run calls = _
      rw [hrun, record_eq, service_keepAll, Call.passed, Service.deliveries, Service.admits]
      simp only [Level.admits_iff]
      split_ifs
      · rw [List.flatMap_cons, keepAll, keepAll, keepAll, List.foldl_append]
      · rfl
    | setThreshold later =>
      obtain ⟨threshold, hrun⟩ := ih (recorder.setThreshold later)
      refine ⟨threshold, ?_⟩
      change (recorder.setThreshold later).run calls = _
      rw [hrun, setThreshold, keepAll_service]
      rfl

end Recorder

/-! ### What is kept and printed -/

section Reactions

variable {ι : Type} (outlet : ι → Outlet) (handings : List (ι × Event))

/-- A memory takes in the events that its leaves are handed. -/
theorem remembered_reactions (position : Nat) :
    ((handings.flatMap fun handing ↦ ((outlet handing.1).react handing.2).map (·, handing.2)).filter
        (·.1 = .remembered position)).map (·.2) =
      (handings.filter fun handing ↦ outlet handing.1 = .memory position).map (·.2) := by
  induction handings with
  | nil => rfl
  | cons handing handings ih =>
    rw [List.flatMap_cons, List.filter_append, List.map_append, ih, List.filter_cons]
    cases outlet handing.1 with
    | console threshold => by_cases hline : handing.2.level.rank ≤ threshold.rank <;>
        simp [Outlet.react, Outlet.line?, hline]
    | structured threshold => by_cases hline : handing.2.level.rank ≤ threshold.rank <;>
        simp [Outlet.react, Outlet.line?, hline]
    | memory target => by_cases htarget : target = position <;> simp [Outlet.react, htarget]

/-- The lines printed are those that the leaves print when they are handed events. -/
theorem lines_reactions :
    (handings.flatMap fun handing ↦
        ((outlet handing.1).react handing.2).map (·, handing.2)).filterMap (·.1.line?) =
      handings.filterMap fun handing ↦ (outlet handing.1).line? handing.2 := by
  induction handings with
  | nil => rfl
  | cons handing handings ih =>
    rw [List.flatMap_cons, List.filterMap_append, ih, List.filterMap_cons]
    cases outlet handing.1 with
    | console threshold => by_cases hline : handing.2.level.rank ≤ threshold.rank <;>
        simp [Outlet.react, Outlet.line?, Delivery.line?, hline]
    | structured threshold => by_cases hline : handing.2.level.rank ≤ threshold.rank <;>
        simp [Outlet.react, Outlet.line?, Delivery.line?, hline]
    | memory target => rfl

end Reactions

/-- Whatever the tree of sinks behind a service, and however its threshold changes between events,
each leaf is handed, in order, exactly the events whose rank is at most that of the service at that
time and at most that of every inner node above the leaf, where errors have the least rank and debug
events the greatest. A memory keeps what its leaves are handed, once for each of them, and nothing
else is printed than what the other leaves print, each up to the rank of its own threshold. Every
error gets to every leaf, and without branches an inner node discards every event. -/
theorem Recorder.run_routes (recorder : Recorder) (calls : List Recorder.Call) :
    let sink := recorder.service.sink
    let passed := Call.passed recorder.service.threshold calls
    let handings := sink.handings passed
    let after := recorder.run calls
    ([Level.error, .warning, .info, .debug].map Level.rank = [0, 1, 2, 3]) ∧
    (∀ number, (handings.filter (·.1 = number)).map (·.2) =
      passed.filter fun event ↦ sink.leaves[number].above.all (event.level.rank ≤ ·.rank)) ∧
    (after.memories = recorder.memories.mapIdx fun position memory ↦
      ((handings.filter fun handing ↦ sink.leaves[handing.1].outlet = .memory position).map
        (·.2)).foldl Memory.push memory) ∧
    (after.lines = recorder.lines ++
      handings.filterMap fun handing ↦ sink.leaves[handing.1].outlet.line? handing.2) ∧
    (∀ number, ((handings.filter (·.1 = number)).map (·.2)).filter (·.level = .error) =
      (calls.filterMap Call.event?).filter (·.level = .error)) ∧
    ∀ threshold event,
      (Sink.multi threshold []).leaves = [] ∧ (Sink.multi threshold []).deliveries event = [] := by
  intro sink passed handings after
  have hhanded (number) := sink.events_handings passed number
  obtain ⟨threshold, hrun⟩ := recorder.exists_run_eq calls
  rw [sink.flatMap_deliveries passed] at hrun
  refine ⟨rfl, hhanded, ?_, ?_, fun number ↦ ?_, fun threshold event ↦ ?_⟩
  · change (recorder.run calls).memories = _
    rw [hrun]
    change (recorder.keepAll _).memories = _
    rw [memories_keepAll]
    congr 1
    funext position memory
    rw [remembered_reactions fun number : Fin sink.leaves.length ↦ sink.leaves[number].outlet]
  · change (recorder.run calls).lines = _
    rw [hrun]
    change (recorder.keepAll _).lines = _
    rw [lines_keepAll,
      lines_reactions fun number : Fin sink.leaves.length ↦ sink.leaves[number].outlet]
  · rw [hhanded, List.filter_filter, ← Call.errors_passed recorder.service.threshold]
    refine List.filter_congr fun event _ ↦ ?_
    by_cases herror : event.level = .error
    · simp [herror, Leaf.isReachedBy_error]
    · simp [herror]
  · refine ⟨rfl, ?_⟩
    rw [Sink.deliveries, branchDeliveries, ite_self]

end Lexeme.Log
