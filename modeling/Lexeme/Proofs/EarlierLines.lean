import Lexeme.Proofs.FileProcessing

/-!
# Lines that were printed earlier

A session keeps the lines printed in it, but nothing that is logged depends on them
(`Log.IgnoresEarlier`): a computation that logs gives the same result and prints the same lines
whatever was printed before, and what was printed before stays where it is. This holds of a single
entry (`Log.Session.log_ignoresEarlier`) and is kept by everything that logging is made of, up to
the processing of a whole input (`Pipeline.processSource_ignoresEarlier`,
`Pipeline.processFile_ignoresEarlier`).
-/

set_option autoImplicit false
set_option relaxedAutoImplicit false

namespace Lexeme

namespace Log

/-- The session with lines that were printed before all of its own. -/
def Session.following (session : Session) (earlier : List String) : Session :=
  { session with printed := session.printed ++ earlier }

/-- Lines printed earlier make no difference to the computation, and none of them is lost. -/
def IgnoresEarlier {α : Type} (body : Logged α) : Prop :=
  ∀ (session : Session) (earlier : List String),
    body.run (session.following earlier) =
      ((body.run session).1, (body.run session).2.following earlier)

namespace IgnoresEarlier

variable {α β : Type}

theorem pure (value : α) : IgnoresEarlier (Pure.pure value) := fun _ _ ↦ rfl

theorem bind {first : Logged α} {next : α → Logged β} (hfirst : IgnoresEarlier first)
    (hnext : ∀ value, IgnoresEarlier (next value)) : IgnoresEarlier (first >>= next) := by
  intro session earlier
  change (next (first.run (session.following earlier)).1).run
    (first.run (session.following earlier)).2 = _
  rw [hfirst session earlier]
  exact hnext _ _ earlier

theorem map {body : Logged α} (hbody : IgnoresEarlier body) (f : α → β) :
    IgnoresEarlier (f <$> body) :=
  hbody.bind fun value ↦ .pure (f value)

/-- A computation may look at everything in the session but the lines printed. -/
theorem get_bind {next : Session → Logged β}
    (hread : ∀ session earlier, next (session.following earlier) = next session)
    (hnext : ∀ session, IgnoresEarlier (next session)) : IgnoresEarlier (get >>= next) := by
  intro session earlier
  change (next (session.following earlier)).run (session.following earlier) = _
  rw [hread]
  exact hnext session session earlier

theorem modifying {change : Session → Session}
    (hchange : ∀ session earlier,
      change (session.following earlier) = (change session).following earlier) :
    IgnoresEarlier (modify change) :=
  fun session earlier ↦ congrArg (Prod.mk ()) (hchange session earlier)

theorem withSource {body : Logged α} (hbody : IgnoresEarlier body) (name : String) :
    IgnoresEarlier (Session.withSource name body) :=
  .get_bind (fun _ _ ↦ rfl) fun _ ↦ (IgnoresEarlier.modifying fun _ _ ↦ rfl).bind fun _ ↦
    hbody.bind fun result ↦ (IgnoresEarlier.modifying fun _ _ ↦ rfl).bind fun _ ↦ .pure result

end IgnoresEarlier

namespace Session

theorem printing_following (session : Session) (earlier lines : List String) :
    (session.following earlier).printing lines = (session.printing lines).following earlier := by
  rw [printing, following, printing, following, List.append_assoc]

theorem log_ignoresEarlier (entry : Entry) : IgnoresEarlier (log entry) := by
  intro session earlier
  rw [log_run, log_run]
  exact congrArg (Prod.mk ()) (session.printing_following earlier _)

theorem forM_log_ignoresEarlier (trace : List Entry) : IgnoresEarlier (trace.forM log) := by
  intro session earlier
  rw [forM_log_run, forM_log_run]
  exact congrArg (Prod.mk ()) (session.printing_following earlier _)

theorem follow_ignoresEarlier {ε α : Type} (traced : Traced ε α) :
    IgnoresEarlier (follow traced) :=
  (forM_log_ignoresEarlier traced.trace).bind fun _ ↦ .pure traced.outcome

end Session

end Log

/-! ### Processing an input -/

namespace Pipeline

open Log (IgnoresEarlier Logged)
open Log.Session (log_ignoresEarlier follow_ignoresEarlier)

variable (settings : Settings) (name : String)

theorem conclude_ignoresEarlier (metadata : Option Files.Metadata) (source : String)
    (scan : ScanOutput) : IgnoresEarlier (conclude settings name metadata source scan) := by
  refine .get_bind (fun _ _ ↦ rfl) fun session ↦ ?_
  cases settings.files.performanceLogging with
  | true => exact (log_ignoresEarlier _).bind fun _ ↦ .pure _
  | false => exact .pure _

theorem verdict_ignoresEarlier (metadata : Option Files.Metadata) (source : String)
    {verdict : Logged (Except LexerError ScanOutput)} (hverdict : IgnoresEarlier verdict) :
    IgnoresEarlier (verdict >>= concludeVerdict settings name metadata source) := by
  refine hverdict.bind fun outcome ↦ ?_
  cases outcome with
  | error error => exact .pure _
  | ok scan => exact (conclude_ignoresEarlier settings name metadata source scan).map _

theorem processSource_ignoresEarlier (source : String) :
    IgnoresEarlier (processSource settings name source) := by
  rw [processSource_eq]
  exact (verdict_ignoresEarlier settings name none source (follow_ignoresEarlier _)).withSource name

theorem processLoaded_ignoresEarlier (file : Files.LoadedFile) :
    IgnoresEarlier (processLoaded settings name file) :=
  verdict_ignoresEarlier settings name (some file.metadata) file.source
    ((follow_ignoresEarlier _).withSource file.metadata.path)

theorem processFile_ignoresEarlier (disk : Files.Disk) :
    IgnoresEarlier (processFile disk settings name) := by
  refine .withSource ?_ name
  refine (log_ignoresEarlier _).bind fun _ ↦ .get_bind (fun _ _ ↦ rfl) fun session ↦ ?_
  refine (follow_ignoresEarlier _).bind fun loaded ↦ ?_
  cases loaded with
  | error error => exact .pure _
  | ok file => exact processLoaded_ignoresEarlier settings name file

end Pipeline

end Lexeme
