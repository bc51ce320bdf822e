import Lexeme.Log.EventText

/-!
# Trees of sinks

Where events go. Sinks form a tree: its leaves print or remember events, its inner nodes hand events
on to all their branches. An event passes a node only if the threshold of the node admits its level.
-/

set_option autoImplicit false
set_option relaxedAutoImplicit false

namespace Lexeme.Log

/-- A destination of events. Memories are named by their positions among all memories. -/
inductive Sink where
  | console (threshold : Level)
  | structured (threshold : Level)
  | memory (position : Nat)
  | multi (threshold : Level) (branches : List Sink)
  deriving Repr, Inhabited

/-- What a sink does with an event. -/
inductive Delivery where
  /-- A line is printed. -/
  | printed (line : String)
  /-- A memory takes the event in. -/
  | remembered (position : Nat)
  deriving Repr, DecidableEq

/-- The line that a delivery prints. -/
def Delivery.line? : Delivery → Option String
  | printed line => some line
  | remembered _ => none

mutual

/-- What a sink does with an event, in order. -/
def Sink.deliveries (event : Event) : Sink → List Delivery
  | .console threshold => if threshold.admits event.level then [.printed event.line] else []
  | .structured threshold => if threshold.admits event.level then [.printed event.jsonLine] else []
  | .memory position => [.remembered position]
  | .multi threshold branches =>
    if threshold.admits event.level then branchDeliveries event branches else []

/-- What sinks do with an event, one sink after the other. -/
def branchDeliveries (event : Event) : List Sink → List Delivery
  | [] => []
  | sink :: sinks => sink.deliveries event ++ branchDeliveries event sinks

end

namespace Sink

/-- Number of sinks directly below a node. -/
def branchCount : Sink → Nat
  | multi _ branches => branches.length
  | _ => 0

/-- The sinks that settings for logging ask for: none at all without the console. -/
def ofSettings (structured console : Bool) (threshold : Level) : Sink :=
  .multi threshold <|
    if console then [if structured then Sink.structured threshold else Sink.console threshold]
    else []

end Sink

/-- A tree of sinks behind a threshold of its own. -/
structure Service where
  sink : Sink
  threshold : Level
  deriving Inhabited

namespace Service

/-- Whether events of a level are handed to the sinks. -/
def admits (service : Service) (level : Level) : Bool :=
  service.threshold.admits level

/-- What becomes of an event. -/
def deliveries (service : Service) (event : Event) : List Delivery :=
  if service.admits event.level then service.sink.deliveries event else []

end Service

end Lexeme.Log
