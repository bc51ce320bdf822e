import Lexeme.Proofs.LoggedEvents

/-!
# The source at work

A computation may name the source at work, forget it, log entries, and run another one under the
name of a source, as deep as it likes (`Log.Script`). The session that runs it has one name at a
time, which is overwritten and put back. Read as it is nested, a script has the name at work handed
down to each part instead: what runs under a name starts with it, and what comes after goes on with
the name from before (`Log.Script.read`). Both are the same (`Log.Script.run_scoped`), so every
entry is logged under the name that is at work where it stands.

An event has that name in its context if the keys of its entry leave room for one more or have the
key of the source among those that are kept (`Log.Entry.KeepsSource`); everything else in its context
is what the entry gave (`Log.Session.get?_eventUnder_some`).
-/

set_option autoImplicit false
set_option relaxedAutoImplicit false

namespace Lexeme.Log

open Text.Dictionary (Takes firstKeys)

/-! ### The source in the context of an event -/

/-- The keys of the context of an entry, as they are given. -/
def Entry.keys (entry : Entry) : List String :=
  entry.context.map (·.1)

/-- The name of the source at work is kept in the context of an event: fewer keys are given than
there is room for, or the key of the source is among those that are kept. -/
def Entry.KeepsSource (entry : Entry) : Prop :=
  entry.keys.eraseDups.length < Limits.current.maxContextEntries ∨
    Event.sourceKey ∈ entry.keys.eraseDups.take Limits.current.maxContextEntries

instance (entry : Entry) : Decidable entry.KeepsSource :=
  inferInstanceAs (Decidable (_ ∨ _))

/-- What an event has of the context of its entry: the last value of each key that is kept. -/
theorem Event.get?_ofEntry (time : Time.Instant) (entry : Entry) (key : String) :
    (Event.ofEntry time entry).context.get? key =
      if key ∈ firstKeys Limits.current.maxContextEntries entry.keys then
        entry.context.reverse.lookup key
      else none := by
  rw [Event.context_ofEntry, get?_gather]
  rfl

theorem Entry.takes_sourceKey_iff (time : Time.Instant) (entry : Entry) :
    Takes Limits.current.maxContextEntries (Event.ofEntry time entry).context Event.sourceKey ↔
      entry.KeepsSource := by
  rw [Event.context_ofEntry, takes_gather_iff]
  rfl

namespace Session

variable (session : Session) (entry : Entry)

/-- The event of an entry that is logged while a source is at work. -/
def eventUnder (source : Option String) : Event :=
  { session with source }.eventOf entry

theorem eventUnder_none : session.eventUnder entry none = Event.ofEntry session.now entry := by
  rw [eventUnder, eventOf, sourceContext, Entry.withContext, List.append_nil]

theorem eventUnder_some (name : String) : session.eventUnder entry (some name) =
    (Event.ofEntry session.now entry).addContext Event.sourceKey name :=
  Event.ofEntry_withContext session.now entry Event.sourceKey name

/-- The name of the source at work replaces what the entry gave under its key. -/
theorem get?_eventUnder_some (name key : String) :
    (session.eventUnder entry (some name)).context.get? key =
      if key = Event.sourceKey then if entry.KeepsSource then some name else none
      else (Event.ofEntry session.now entry).context.get? key := by
  rw [eventUnder_some, Event.addContext]
  dsimp only
  by_cases hkept : entry.KeepsSource
  · have htakes := (entry.takes_sourceKey_iff session.now).mpr hkept
    rw [addContext_of_takes _ htakes, Text.Dictionary.get?_insert, if_pos hkept]
  · have hrefused := (entry.takes_sourceKey_iff session.now).not.mpr hkept
    rw [addContext_of_not_takes _ hrefused, if_neg hkept]
    split_ifs with hkey
    · rw [hkey]
      by_contra hsome
      exact hrefused (Or.inl ((Text.Dictionary.mem_keys_iff _ _).mpr hsome))
    · rfl

/-- A computation under the name of a source starts with that name; what it comes to is returned, and
the source from before is at work again. -/
theorem withSource_run_eq {α : Type} (name : String) (body : Logged α) (session : Session) :
    (withSource name body).run session =
      ((body.run { session with source := some name }).1,
        { (body.run { session with source := some name }).2 with source := session.source }) :=
  rfl

end Session

/-! ### Scripts -/

/-- A computation that names the source at work, forgets it, logs entries, and runs other
computations under the name of a source. How it goes on may depend on what they come to, so that
failures among their results are handed on or not. -/
inductive Script : Type → Type 1
  | done {α : Type} (result : α) : Script α
  | setSource {α : Type} (name : String) (next : Script α) : Script α
  | clearSource {α : Type} (next : Script α) : Script α
  | log {α : Type} (entry : Entry) (next : Script α) : Script α
  | within {α β : Type} (name : String) (body : Script β) (next : β → Script α) : Script α

namespace Script

/-- Runs a script in a session. -/
def run {α : Type} : Script α → Logged α
  | done result => pure result
  | setSource name next => do
    Session.setSource name
    next.run
  | clearSource next => do
    Session.clearSource
    next.run
  | log entry next => do
    Session.log entry
    next.run
  | within name body next => do
    let result ← Session.withSource name body.run
    (next result).run

/-- What a script comes to, the source that is at work after it, and the entries it logs, each with
the source at work where it stands. -/
structure Reading (α : Type) where
  result : α
  source : Option String
  logged : List (Option String × Entry) := []

/-- Reads a script as it is nested. A body starts with the name it runs under, and what comes after
it goes on with the source from before, whatever the body does. -/
def read {α : Type} (source : Option String) : Script α → Reading α
  | done result => { result, source }
  | setSource name next => next.read (some name)
  | clearSource next => next.read none
  | log entry next =>
    let rest := next.read source
    { rest with logged := (source, entry) :: rest.logged }
  | within name body next =>
    let inner := body.read (some name)
    let rest := (next inner.result).read source
    { rest with logged := inner.logged ++ rest.logged }

/-- The lines that are printed in a session for entries, each logged under a source. -/
def linesOf (session : Session) (logged : List (Option String × Entry)) : List String :=
  (logged.map fun fact ↦ session.eventUnder fact.2 fact.1).flatMap session.linesOf

theorem linesOf_append (session : Session) (first second : List (Option String × Entry)) :
    linesOf session (first ++ second) = linesOf session first ++ linesOf session second := by
  rw [linesOf, List.map_append, List.flatMap_append]
  rfl

/-- A script that is run comes to what is read of it. -/
theorem run_eq {α : Type} (script : Script α) (session : Session) :
    script.run.run session =
      ((script.read session.source).result,
        { session.printing (linesOf session (script.read session.source).logged) with
          source := (script.read session.source).source }) := by
  induction script generalizing session with
  | done result => rfl
  | setSource name next ih => exact ih { session with source := some name }
  | clearSource next ih => exact ih { session with source := none }
  | log entry next ih =>
    have hrest := ih (session.printing (session.linesOf (session.eventOf entry)))
    change next.run.run ((Session.log entry).run session).2 = _
    rw [Session.log_run, hrest, Session.printing_append]
    rfl
  | within name body next ihbody ihnext =>
    -- What comes after the body runs where the body left off, but for the source, which is back.
    let inner := body.read (some name)
    have hinner : (Session.withSource name body.run).run session =
        (inner.result, session.printing (linesOf session inner.logged)) := by
      rw [Session.withSource_run_eq, ihbody]
      rfl
    have hrest := ihnext inner.result (session.printing (linesOf session inner.logged))
    rw [Session.printing_append] at hrest
    change (fun ran ↦ (next ran.1).run.run ran.2)
      ((Session.withSource name body.run).run session) = _
    rw [hinner]
    refine hrest.trans ?_
    rw [read, linesOf_append]
    rfl

/-- The source at work is nested as the script is. A script that is run comes to what is read of it
as it is nested: its result, the source at work after it, and the lines of its entries, each logged
under the source that is at work where it stands. What runs under a name starts with it, its result
is returned, and whatever it does to the name, the one from before is at work again. An event has
the last value of each key of its entry that is kept, and without a source nothing else; the name of
a source stands under its key, in place of what the entry gave, if it is kept at all. -/
theorem run_scoped {α : Type} (script : Script α) (session : Session) :
    let reading := script.read session.source
    let events := reading.logged.map fun fact ↦ session.eventUnder fact.2 fact.1
    script.run.run session =
      (reading.result,
        { session.printing (events.flatMap session.linesOf) with source := reading.source }) ∧
    (∀ (β : Type) (name : String) (body : Logged β),
      let inner := body.run { session with source := some name }
      (Session.withSource name body).run session =
        (inner.1, { inner.2 with source := session.source })) ∧
    ∀ entry : Entry,
      let own := Event.ofEntry session.now entry
      (∀ key, own.context.get? key =
        if key ∈ firstKeys Limits.current.maxContextEntries entry.keys then
          entry.context.reverse.lookup key
        else none) ∧
      session.eventUnder entry none = own ∧
      ∀ name,
        let event := session.eventUnder entry (some name)
        event = { own with context := event.context } ∧
        ∀ key, event.context.get? key =
          if key = Event.sourceKey then if entry.KeepsSource then some name else none
          else own.context.get? key := by
  intro reading events
  refine ⟨script.run_eq session, fun β name body ↦ Session.withSource_run_eq name body session,
    fun entry ↦ ?_⟩
  intro own
  refine ⟨Event.get?_ofEntry session.now entry, session.eventUnder_none entry, fun name ↦ ?_⟩
  refine ⟨?_, session.get?_eventUnder_some entry name⟩
  rw [session.eventUnder_some entry name]
  rfl

/-- A body that forgets its name and fails does not take the name around it away. -/
example (entry : Entry) :
    let inner : Script (Except String Unit) := .clearSource (.done (.error "rejected"))
    let outer : Script (Except String Unit) :=
      .within "inner.src" inner fun result ↦ .log entry (.done result)
    (Script.within "outer.src" outer Script.done).read none =
      { result := .error "rejected", source := none, logged := [(some "outer.src", entry)] } :=
  rfl

end Script

end Lexeme.Log
