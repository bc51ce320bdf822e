import Lexeme.Log.Event

/-!
# Logs in memory

A log kept in memory. It holds the latest events up to the limit of the build, oldest first; an event
for which there is no room drives out the oldest ones.
-/

set_option autoImplicit false
set_option relaxedAutoImplicit false

namespace Lexeme.Log

/-- The latest events, as a queue of two lists: the front from the oldest event on, the back from
the newest one on. -/
structure Memory where
  front : List Event
  back : List Event
  count : Nat
  count_eq : count = front.length + back.length
  deriving DecidableEq

namespace Memory

/-- Nothing was logged yet. -/
def empty : Memory := ⟨[], [], 0, rfl⟩

/-- The events from the oldest to the newest. -/
def toList (memory : Memory) : List Event :=
  memory.front ++ memory.back.reverse

/-- Adds an event without a look at the limit. -/
def append (memory : Memory) (event : Event) : Memory :=
  ⟨memory.front, event :: memory.back, memory.count + 1, by
    rw [memory.count_eq, List.length_cons]; omega⟩

/-- Drops the oldest event. -/
def dropOldest (memory : Memory) : Memory :=
  match h : memory.front with
  | _ :: front => ⟨front, memory.back, memory.count - 1, by
      rw [memory.count_eq, h, List.length_cons]; omega⟩
  | [] =>
    let front := memory.back.reverse.tail
    ⟨front, [], front.length, rfl⟩

/-- Drops a number of the oldest events. -/
def drain (memory : Memory) : Nat → Memory
  | 0 => memory
  | number + 1 => memory.dropOldest.drain number

/-- Takes in an event, after as many of the oldest ones are dropped as leave room for it. -/
def push (memory : Memory) (event : Event) : Memory :=
  if memory.count < Limits.current.logBufferSize then memory.append event
  else (memory.drain (memory.count - Limits.current.logBufferSize + 1)).append event

theorem length_toList (memory : Memory) : memory.toList.length = memory.count := by
  rw [toList, List.length_append, List.length_reverse, memory.count_eq]

theorem toList_append (memory : Memory) (event : Event) :
    (memory.append event).toList = memory.toList ++ [event] := by
  simp [toList, append]

theorem toList_dropOldest (memory : Memory) : memory.dropOldest.toList = memory.toList.tail := by
  rw [dropOldest, toList, toList]
  split <;> simp_all

theorem toList_drain (memory : Memory) (number : Nat) :
    (memory.drain number).toList = memory.toList.drop number := by
  induction number generalizing memory with
  | zero => rfl
  | succ number ih => rw [drain, ih, toList_dropOldest, List.drop_tail]

/-- Number of events of a level. -/
def countLevel (memory : Memory) (level : Level) : Nat :=
  memory.toList.countP (·.level == level)

/-- The events of a level. -/
def atLevel (memory : Memory) (level : Level) : List Event :=
  memory.toList.filter (·.level == level)

/-- The events with a code. -/
def withCode (memory : Memory) (code : Code) : List Event :=
  memory.toList.filter (·.code == code)

/-- The events whose codes are of a category. -/
def ofCategory (memory : Memory) (category : String) : List Event :=
  memory.toList.filter (·.code.category == category)

/-- Whether there is an event of a level with a code. -/
def has (memory : Memory) (level : Level) (code : Code) : Bool :=
  memory.toList.any fun event ↦ event.level == level && event.code == code

/-- What can be done with a memory. -/
inductive Call where
  | log (event : Event)
  | clear

/-- The memory after a call. -/
def perform (memory : Memory) : Call → Memory
  | .log event => memory.push event
  | .clear => empty

/-- The memory after calls, one after the other, on an empty one. -/
def run (calls : List Call) : Memory :=
  calls.foldl perform empty

end Memory

/-- Numbers of events by level. Critical ones are errors whose codes require a halt. -/
structure Summary where
  total : Nat
  errors : Nat
  warnings : Nat
  infos : Nat
  debugs : Nat
  critical : Nat
  deriving Repr, DecidableEq

/-- The numbers of events in a memory. -/
def Memory.summary (memory : Memory) : Summary where
  total := memory.count
  errors := memory.countLevel .error
  warnings := memory.countLevel .warning
  infos := memory.countLevel .info
  debugs := memory.countLevel .debug
  critical := memory.toList.countP fun event ↦ event.level == .error && event.code.requiresHalt

end Lexeme.Log
