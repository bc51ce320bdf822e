import Lexeme.Log.Session
import Lexeme.Proofs.EventContext

/-!
# What a session hands to its service

Logging an entry makes an event of it, with the source at work in its context, and hands it to the
service of the session. What the session keeps of that are the lines that the service prints for the
event (`Log.Session.log_run`), and of the entries of a trace the lines of all their events, in order
(`Log.Session.follow_run`).
-/

set_option autoImplicit false
set_option relaxedAutoImplicit false

namespace Lexeme.Log

/-- The lines that are printed for an event. -/
def Service.printed (service : Service) (event : Event) : List String :=
  (service.deliveries event).filterMap Delivery.line?

/-- A service for which no level is too detailed prints every event. -/
theorem Service.printed_ofSettings_debug (structured : Bool) (event : Event) :
    Service.printed ⟨.ofSettings structured true .debug, .debug⟩ event =
      [if structured then event.jsonLine else event.line] := by
  have hadmits : Level.debug.admits event.level = true := by cases event.level <;> rfl
  cases structured <;>
    simp [printed, deliveries, admits, Sink.ofSettings, Sink.deliveries, branchDeliveries,
      hadmits, Delivery.line?]

namespace Session

/-- The event that logging an entry makes. -/
def eventOf (session : Session) (entry : Entry) : Event :=
  .ofEntry session.now (entry.withContext session.sourceContext)

/-- The session after more lines are printed. -/
def printing (session : Session) (lines : List String) : Session :=
  { session with printed := lines.reverse ++ session.printed }

theorem printing_append (session : Session) (first second : List String) :
    (session.printing first).printing second = session.printing (first ++ second) := by
  rw [printing, printing, printing, List.reverse_append, List.append_assoc]

theorem lines_printing (session : Session) (lines : List String) :
    (session.printing lines).lines = session.lines ++ lines := by
  rw [Session.lines, Session.lines, printing, List.reverse_append, List.reverse_reverse]

/-- The lines that the service of the session prints for an event, if there is one. -/
def linesOf (session : Session) (event : Event) : List String :=
  match session.service with
  | some service => service.printed event
  | none => []

theorem linesOf_eq {session : Session} {service : Service}
    (hservice : session.service = some service) : session.linesOf = service.printed := by
  funext event
  rw [linesOf, hservice]

theorem deliver_run (deliveries : List Delivery) (session : Session) :
    (deliver deliveries).run session =
      ((), session.printing (deliveries.filterMap Delivery.line?)) := by
  induction deliveries generalizing session with
  | nil => rfl
  | cons delivery deliveries ih =>
    cases delivery with
    | printed line =>
      change (deliver deliveries).run (session.printing [line]) = _
      rw [ih, printing_append]
      rfl
    | remembered position => exact ih session

theorem handle_run (event : Event) (session : Session) :
    (handle event).run session = ((), session.printing (session.linesOf event)) := by
  change (match session.service with
    | some service => deliver (service.deliveries event)
    | none => pure () : Logged Unit).run session = _
  unfold linesOf
  cases session.service with
  | none => rfl
  | some service => exact deliver_run _ session

theorem log_run (entry : Entry) (session : Session) :
    (log entry).run session =
      ((), session.printing (session.linesOf (session.eventOf entry))) :=
  handle_run (session.eventOf entry) session

theorem forM_log_run (trace : List Entry) (session : Session) :
    (trace.forM log).run session =
      ((), session.printing ((trace.map session.eventOf).flatMap session.linesOf)) := by
  induction trace generalizing session with
  | nil => rfl
  | cons entry trace ih =>
    have hrest := ih (session.printing (session.linesOf (session.eventOf entry)))
    change (trace.forM log).run ((log entry).run session).2 = _
    rw [log_run, hrest, printing_append]
    rfl

/-- Following a trace hands the events of its entries to the service, in order. -/
theorem follow_run {ε α : Type} {session : Session} {service : Service}
    (hservice : session.service = some service) (traced : Traced ε α) :
    (follow traced).run session = (traced.outcome,
      session.printing ((traced.trace.map session.eventOf).flatMap service.printed)) := by
  change (traced.outcome, ((traced.trace.forM log).run session).2) = _
  rw [forM_log_run, linesOf_eq hservice]

end Session

end Lexeme.Log
