import Lexeme.Log.Memory
import Lexeme.Log.Sink

/-!
# Services that can be looked at

A service whose events can be looked at afterwards: what it hands to a memory is kept there, and what
it prints is kept as lines.
-/

set_option autoImplicit false
set_option relaxedAutoImplicit false

namespace Lexeme.Log

/-- A service with the memories that its sinks name by their positions. -/
structure Recorder where
  service : Service
  memories : List Memory
  /-- Lines printed so far, the latest first. -/
  printed : List String := []

namespace Recorder

/-- A service before the first event, with a number of memories. -/
def start (service : Service) (memories : Nat) : Recorder :=
  { service, memories := List.replicate memories .empty }

/-- The lines printed so far, in order. -/
def lines (recorder : Recorder) : List String :=
  recorder.printed.reverse

/-- Changes the memory at a position. -/
def modifyMemory (recorder : Recorder) (position : Nat) (change : Memory → Memory) : Recorder :=
  { recorder with memories := recorder.memories.modify position change }

/-- Keeps an event where a delivery puts it. -/
def keep (event : Event) (recorder : Recorder) : Delivery → Recorder
  | .printed line => { recorder with printed := line :: recorder.printed }
  | .remembered position => recorder.modifyMemory position (·.push event)

/-- Hands an event to the service. -/
def record (recorder : Recorder) (event : Event) : Recorder :=
  (recorder.service.deliveries event).foldl (keep event) recorder

/-- Gives the service another threshold. -/
def setThreshold (recorder : Recorder) (threshold : Level) : Recorder :=
  { recorder with service := { recorder.service with threshold } }

/-- What can be asked of a service. -/
inductive Call where
  | log (event : Event)
  | setThreshold (threshold : Level)

/-- The recorder after a call. -/
def perform (recorder : Recorder) : Call → Recorder
  | .log event => recorder.record event
  | .setThreshold threshold => recorder.setThreshold threshold

/-- The recorder after calls, one after the other. -/
def run (recorder : Recorder) (calls : List Call) : Recorder :=
  calls.foldl perform recorder

/-- The memory at a position. -/
def memoryAt (recorder : Recorder) (position : Nat) : Memory :=
  (recorder.memories[position]?).getD .empty

end Recorder

end Lexeme.Log
