import Lexeme.Pipeline.Processing
import Lexeme.Proofs.LoggedEvents

/-!
# What processing an input leaves behind

Logging prints lines and does nothing else to a session (`Log.OnlyPrints`), so it has no part in
what is found: whatever is logged on the way to the verdict on a scan, the result is made of the scan
that the verdict lets pass (`Pipeline.verdict_run`). What comes of a source is therefore the verdict
of the scan mode on its scan (`Pipeline.processSource_run`), and afterwards the session is as it was
before, except for the lines printed (`Pipeline.processSource_onlyPrints`).
-/

set_option autoImplicit false
set_option relaxedAutoImplicit false

namespace Lexeme

namespace Log

/-- The later session has printed more lines and is otherwise as the earlier one. -/
def Session.PrintsTo (before after : Session) : Prop :=
  ∃ lines, after = { before with printed := lines ++ before.printed }

theorem Session.PrintsTo.refl (session : Session) : session.PrintsTo session :=
  ⟨[], rfl⟩

theorem Session.PrintsTo.trans {first second third : Session} (hfirst : first.PrintsTo second)
    (hsecond : second.PrintsTo third) : first.PrintsTo third := by
  obtain ⟨lines, rfl⟩ := hfirst
  obtain ⟨more, rfl⟩ := hsecond
  exact ⟨more ++ lines, by rw [List.append_assoc]⟩

theorem Session.PrintsTo.elapsed {before after : Session} (hprints : before.PrintsTo after) :
    after.elapsed = before.elapsed := by
  obtain ⟨lines, rfl⟩ := hprints
  rfl

theorem Session.PrintsTo.source {before after : Session} (hprints : before.PrintsTo after) :
    after.source = before.source := by
  obtain ⟨lines, rfl⟩ := hprints
  rfl

/-- The computation prints lines and changes nothing else. -/
def OnlyPrints {α : Type} (body : Logged α) : Prop :=
  ∀ session : Session, session.PrintsTo (body.run session).2

namespace OnlyPrints

variable {α β : Type}

theorem pure (value : α) : OnlyPrints (Pure.pure value) := fun session ↦ .refl session

theorem bind {first : Logged α} {next : α → Logged β} (hfirst : OnlyPrints first)
    (hnext : ∀ value, OnlyPrints (next value)) : OnlyPrints (first >>= next) :=
  fun session ↦ (hfirst session).trans (hnext _ _)

theorem map {body : Logged α} (hbody : OnlyPrints body) (f : α → β) : OnlyPrints (f <$> body) :=
  hbody

/-- What is read of the session does not change it. -/
theorem get_bind {next : Session → Logged β} (hnext : ∀ session, OnlyPrints (next session)) :
    OnlyPrints (get >>= next) :=
  fun session ↦ hnext session session

/-- A computation under the name of a source leaves the name as it was. -/
theorem withSource {body : Logged α} (hbody : OnlyPrints body) (name : String) :
    OnlyPrints (Session.withSource name body) := by
  intro session
  obtain ⟨lines, hlines⟩ := hbody { session with source := some name }
  refine ⟨lines, ?_⟩
  change { (body.run { session with source := some name }).2 with source := session.source } = _
  rw [hlines]

end OnlyPrints

namespace Session

/-! ### Logging only prints -/

theorem printsTo_printing (session : Session) (lines : List String) :
    session.PrintsTo (session.printing lines) :=
  ⟨lines.reverse, rfl⟩

theorem log_onlyPrints (entry : Entry) : OnlyPrints (log entry) := by
  intro session
  rw [log_run]
  exact session.printsTo_printing _

theorem forM_log_onlyPrints (trace : List Entry) : OnlyPrints (trace.forM log) := by
  intro session
  rw [forM_log_run]
  exact session.printsTo_printing _

theorem follow_onlyPrints {ε α : Type} (traced : Traced ε α) : OnlyPrints (follow traced) :=
  (forM_log_onlyPrints traced.trace).bind fun _ ↦ .pure traced.outcome

/-- What comes after a traced computation comes after its trace, and is given its outcome. -/
theorem follow_bind {ε α β : Type} (traced : Traced ε α) (next : Except ε α → Logged β) :
    (follow traced >>= next) = (do traced.trace.forM log; next traced.outcome) := rfl

theorem withSource_run {α : Type} (name : String) (body : Logged α) (session : Session) :
    ((withSource name body).run session).1 =
      (body.run { session with source := some name }).1 := rfl

end Session

end Log

/-! ### Processing a source -/

namespace Pipeline

open Log (Logged OnlyPrints)
open Log.Session (follow log withSource log_onlyPrints follow_onlyPrints withSource_run)

section Conclude

variable (settings : Settings) (name : String) (metadata : Option Files.Metadata)
  (source : String) (scan : ScanOutput)

/-- A result is made of what is given for it, and takes the time of the session. -/
theorem conclude_run (session : Log.Session) :
    ((conclude settings name metadata source scan).run session).1 =
      ⟨name, settings.scan.mode, scan, metadata, source.utf8ByteSize, session.elapsed⟩ := by
  cases hlogged : settings.files.performanceLogging <;> simp only [conclude, hlogged] <;> rfl

theorem conclude_onlyPrints : OnlyPrints (conclude settings name metadata source scan) := by
  refine .get_bind fun session ↦ ?_
  cases settings.files.performanceLogging with
  | true => exact (log_onlyPrints _).bind fun _ ↦ .pure _
  | false => exact .pure _

end Conclude

section Verdict

variable (settings : Settings) (name : String) (metadata : Option Files.Metadata)
  (source : String) {verdict : Logged (Except LexerError ScanOutput)}

/-- What is done with a verdict on a scan: an error stays one, and a scan makes a result. -/
def concludeVerdict (outcome : Except LexerError ScanOutput) : Logged (Except Failure Result) :=
  match outcome with
  | .error error => pure (.error (.scan error))
  | .ok scan => .ok <$> conclude settings name metadata source scan

theorem verdict_onlyPrints (hverdict : OnlyPrints verdict) :
    OnlyPrints (verdict >>= concludeVerdict settings name metadata source) := by
  refine hverdict.bind fun outcome ↦ ?_
  cases outcome with
  | error error => exact .pure _
  | ok scan => exact (conclude_onlyPrints settings name metadata source scan).map _

/-- Whatever is logged on the way to a verdict, the result is made of the scan that it lets pass. -/
theorem verdict_run (hverdict : OnlyPrints verdict) (session : Log.Session) :
    ((verdict >>= concludeVerdict settings name metadata source).run session).1 =
      match (verdict.run session).1 with
      | .error error => .error (.scan error)
      | .ok scan => .ok
          ⟨name, settings.scan.mode, scan, metadata, source.utf8ByteSize, session.elapsed⟩ := by
  have helapsed : (verdict.run session).2.elapsed = session.elapsed := (hverdict session).elapsed
  change ((concludeVerdict settings name metadata source (verdict.run session).1).run _).1 = _
  cases (verdict.run session).1 with
  | error error => rfl
  | ok scan =>
    have hconclude := conclude_run settings name metadata source scan (verdict.run session).2
    rw [helapsed] at hconclude
    exact congrArg Except.ok hconclude

end Verdict

section Source

variable (settings : Settings) (name source : String)

theorem processSource_eq :
    processSource settings name source = withSource name
      (follow (judgedScan settings.scan source) >>=
        concludeVerdict settings name none source) := rfl

theorem processSource_onlyPrints : OnlyPrints (processSource settings name source) := by
  rw [processSource_eq]
  exact (verdict_onlyPrints settings name none source (follow_onlyPrints _)).withSource name

/-- What comes of a source is the verdict of the scan mode on its scan. -/
theorem processSource_run (session : Log.Session) :
    ((processSource settings name source).run session).1 =
      match (scan settings.scan source).enforce settings.scan.mode with
      | .error error => .error (.scan error)
      | .ok scan => .ok
          ⟨name, settings.scan.mode, scan, none, source.utf8ByteSize, session.elapsed⟩ := by
  rw [processSource_eq, withSource_run]
  exact verdict_run settings name none source (follow_onlyPrints _) _

end Source

end Pipeline

end Lexeme
