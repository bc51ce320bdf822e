import Lexeme.CommandLine.Run
import Lexeme.Proofs.BuildLimits
import Lexeme.Proofs.EarlierLines

/-!
# The inputs of one run

A run processes its inputs one after the other in a single session, and each step adds to what the
steps before have come to (`CommandLine.Run.advance_run`). Since processing an input changes nothing
in the session but the lines printed, and does not depend on these, a step comes to the same as
processing its input by itself, and so the whole run comes to what its inputs come to by themselves
(`CommandLine.Run.processInputs_run`, `CommandLine.Run.finish_eq`). The session has no part in it
either, apart from the time that a result reports (`CommandLine.Input.process_untimed`).

A run can always be started once its settings are known (`CommandLine.Run.exists_prepare`). What a
command line comes to is put together from these facts (`CommandLine.respond_isolates`), and compared
with what the pipeline makes of each input alone (`CommandLine.Input.alone`).
-/

set_option autoImplicit false
set_option relaxedAutoImplicit false

namespace Lexeme

/-! ### The time taken -/

namespace Pipeline

open Log (Session)

/-- The result without the time that it took. -/
def Result.untimed (result : Result) : Result :=
  { result with duration := .zero }

/-- Only a summary tells the time taken. -/
theorem Result.renderText_untimed (result : Result) (withMetrics : Bool) :
    (result.untimed.report withMetrics).renderText false =
      (result.report withMetrics).renderText false := by
  simp only [Output.renderText, Output.lines, report, untimed, Bool.false_eq_true, if_false]

/-- The time that loading a file takes is told with the file, and makes no other difference. -/
theorem outcome_loading (disk : Files.Disk) (settings : Settings) (path : String)
    (elapsed other : Time.Duration) :
    (loading disk settings path elapsed).outcome =
      (loading disk settings path other).outcome.map
        fun file ↦ { file with duration := elapsed } := by
  have hmap : ∀ {α : Type} (first : Except Files.FileError α)
      (next : α → Except Files.FileError Files.LoadedFile)
      (f : Files.LoadedFile → Files.LoadedFile),
      (first >>= next).map f = first >>= fun value ↦ (next value).map f := by
    intro α first next f
    cases first <;> rfl
  simp only [loading, Files.Loader.load, Log.Traced.outcome_bind, Log.Traced.outcome_note,
    Log.Traced.outcome_pure, hmap]
  simp only [Except.map]

theorem processSource_untimed (settings : Settings) (name source : String)
    (session other : Session) :
    ((processSource settings name source).run session).1.map Result.untimed =
      ((processSource settings name source).run other).1.map Result.untimed := by
  rw [processSource_run, processSource_run]
  cases (scan settings.scan source).enforce settings.scan.mode <;> rfl

theorem processFile_untimed (disk : Files.Disk) (settings : Settings) (path : String)
    (session other : Session) :
    ((processFile disk settings path).run session).1.map Result.untimed =
      ((processFile disk settings path).run other).1.map Result.untimed := by
  have hloading := outcome_loading disk settings path session.elapsed other.elapsed
  cases hother : (loading disk settings path other.elapsed).outcome with
  | error error =>
    rw [hother] at hloading
    rw [processFile_not_loaded disk settings path session hloading,
      processFile_not_loaded disk settings path other hother]
  | ok file =>
    rw [hother] at hloading
    rw [processFile_loaded disk settings path session hloading,
      processFile_loaded disk settings path other hother]
    cases (scan settings.scan file.source).enforce settings.scan.mode <;> rfl

end Pipeline

namespace CommandLine

open Log (IgnoresEarlier Logged OnlyPrints Session)
open Pipeline (Failure Result)

namespace Input

/-! ### One input -/

/-- What an input comes to alone in a session: the text of the standard input is processed under its
name, and a file as what is at its path. -/
def alone (place : Surroundings) (settings : Settings) (session : Session) :
    Input → Except Failure Result
  | stdin =>
    match place.stdin with
    | .ok source => ((Pipeline.processSource settings "<stdin>" source).run session).1
    | .error cause => .error (.internal ("failed to read stdin: " ++ cause))
  | file path => ((Pipeline.processFile place.disk settings path).run session).1

variable (place : Surroundings) (settings : Settings) (input : Input)

theorem process_run_fst (session : Session) :
    ((input.process place settings).run session).1 = input.alone place settings session := by
  cases input with
  | stdin =>
    rw [process, alone]
    cases place.stdin <;> rfl
  | file path => rfl

theorem process_onlyPrints : OnlyPrints (input.process place settings) := by
  cases input with
  | stdin =>
    rw [process]
    cases place.stdin with
    | ok source => exact Pipeline.processSource_onlyPrints settings Input.stdin.name source
    | error cause => exact .pure _
  | file path => exact Pipeline.processFile_onlyPrints place.disk settings path

theorem process_ignoresEarlier : IgnoresEarlier (input.process place settings) := by
  cases input with
  | stdin =>
    rw [process]
    cases place.stdin with
    | ok source => exact Pipeline.processSource_ignoresEarlier settings Input.stdin.name source
    | error cause => exact .pure _
  | file path => exact Pipeline.processFile_ignoresEarlier settings path place.disk

/-- Whatever session an input is processed in, its result differs in nothing but the time taken. -/
theorem process_untimed (session other : Session) :
    ((input.process place settings).run session).1.map Result.untimed =
      ((input.process place settings).run other).1.map Result.untimed := by
  cases input with
  | stdin =>
    rw [process]
    cases place.stdin with
    | ok source =>
      exact Pipeline.processSource_untimed settings Input.stdin.name source session other
    | error cause => rfl
  | file path => exact Pipeline.processFile_untimed place.disk settings path session other

end Input

/-! ### One input after the other -/

/-- What a run has come to with one more outcome. -/
def Progress.add (progress : Progress) (outcome : Outcome) : Progress :=
  match outcome.result with
  | .ok result => { progress with results := progress.results.push result }
  | .error _ => { progress with failures := progress.failures + 1 }

theorem Progress.results_add (progress : Progress) (outcome : Outcome) :
    (progress.add outcome).results.toList = progress.results.toList ++ outcome.result?.toList := by
  rw [Progress.add, Outcome.result?]
  cases outcome.result with
  | ok result => exact Array.toList_push
  | error failure => exact (List.append_nil _).symm

theorem Progress.failures_add (progress : Progress) (outcome : Outcome) :
    (progress.add outcome).failures =
      progress.failures + if !outcome.result.isOk then 1 else 0 := by
  rw [Progress.add]
  cases outcome.result <;> rfl

/-- A failure is recorded with its line, and a result without any. -/
theorem Progress.record_run (progress : Progress) (outcome : Outcome) (session : Session) :
    (progress.record outcome.input outcome.result).run session =
      (progress.add outcome,
        { session with printed := outcome.complaint?.toList ++ session.printed }) := by
  rw [Progress.add, Outcome.complaint?]
  cases outcome.result <;> rfl

/-! What does not tell the time taken is the same for results that differ in nothing else. -/

section Untimed

variable {first second : Except Failure Result}
  (huntimed : first.map Result.untimed = second.map Result.untimed)

include huntimed

theorem cases_of_untimed :
    (∃ failure, first = .error failure ∧ second = .error failure) ∨
      ∃ result other, first = .ok result ∧ second = .ok other ∧ result.untimed = other.untimed := by
  cases first with
  | error failure =>
    cases second with
    | error other => exact .inl ⟨failure, rfl, huntimed.symm⟩
    | ok other => cases huntimed
  | ok result =>
    cases second with
    | error other => cases huntimed
    | ok other => exact .inr ⟨result, other, rfl, rfl, Except.ok.inj huntimed⟩

theorem isOk_eq_of_untimed : first.isOk = second.isOk := by
  obtain ⟨failure, rfl, rfl⟩ | ⟨result, other, rfl, rfl, -⟩ := cases_of_untimed huntimed <;> rfl

theorem toOption_eq_of_untimed :
    first.toOption.map Result.untimed = second.toOption.map Result.untimed := by
  obtain ⟨failure, rfl, rfl⟩ | ⟨result, other, rfl, rfl, hother⟩ := cases_of_untimed huntimed
  · rfl
  · exact congrArg some hother

theorem complaint?_eq_of_untimed (input : Input) (log : List String) :
    (Outcome.mk input log first).complaint? = (Outcome.mk input log second).complaint? := by
  obtain ⟨failure, rfl, rfl⟩ | ⟨result, other, rfl, rfl, -⟩ := cases_of_untimed huntimed <;> rfl

end Untimed

namespace Run

variable (run : Run)

/-- The session of a run with other lines printed, in which the next step takes a given time. -/
def sessionAt (elapsed : Time.Duration) (printed : List String) : Session :=
  { run.session with elapsed, printed }

/-- An input that is processed after others comes to what it comes to by itself, and its lines
follow those that are there. -/
theorem process_run (input : Input) (elapsed : Time.Duration) (printed : List String) :
    (input.process run.place run.settings).run (run.sessionAt elapsed printed) =
      ((run.outcome elapsed input).result,
        run.sessionAt elapsed ((run.outcome elapsed input).log.reverse ++ printed)) := by
  have hearlier := Input.process_ignoresEarlier run.place run.settings input
    (run.sessionAt elapsed []) printed
  obtain ⟨lines, hlines⟩ := Input.process_onlyPrints run.place run.settings input
    (run.sessionAt elapsed [])
  have hafter : ((input.process run.place run.settings).run (run.sessionAt elapsed [])).2 =
      run.sessionAt elapsed lines := by
    rw [hlines]
    exact congrArg (run.sessionAt elapsed) (List.append_nil lines)
  have hlog : (run.outcome elapsed input).log = lines.reverse :=
    congrArg Session.lines hafter
  rw [hlog, List.reverse_reverse]
  refine hearlier.trans ?_
  rw [hafter]
  rfl

/-- One step of a run adds the outcome of its input, and the lines about it. -/
theorem advance_run (progress : Progress) (input : Input) (elapsed before : Time.Duration)
    (printed : List String) :
    (run.advance progress input elapsed).run (run.sessionAt before printed) =
      (progress.add (run.outcome elapsed input),
        run.sessionAt elapsed ((run.outcome elapsed input).notices.reverse ++ printed)) := by
  have hprocess := run.process_run input elapsed printed
  change (progress.record input ((input.process run.place run.settings).run
    (run.sessionAt elapsed printed)).1).run
      ((input.process run.place run.settings).run (run.sessionAt elapsed printed)).2 = _
  rw [hprocess]
  refine (progress.record_run (run.outcome elapsed input) _).trans ?_
  rw [Outcome.notices, List.reverse_append, List.append_assoc]
  cases (run.outcome elapsed input).complaint? <;> rfl

/-- In any other session too, an input comes to its outcome, apart from the time taken. -/
theorem outcome_untimed (input : Input) (elapsed : Time.Duration) (other : Session) :
    (run.outcome elapsed input).result.map Result.untimed =
      ((input.process run.place run.settings).run other).1.map Result.untimed :=
  input.process_untimed run.place run.settings (run.sessionAt elapsed []) other

/-- The outcomes of inputs that are each processed by themselves, in times that are given. -/
def outcomes (inputs : List (Input × Time.Duration)) : List Outcome :=
  inputs.map fun (input, elapsed) ↦ run.outcome elapsed input

/-- Steps of a run from whatever it has come to before: the outcomes of the inputs by themselves and
the lines about them are added in order. -/
theorem foldlM_advance_run (inputs : List (Input × Time.Duration)) (progress : Progress)
    (before : Time.Duration) (printed : List String) :
    ∃ last,
      (inputs.foldlM (fun progress (input, elapsed) ↦ run.advance progress input elapsed)
          progress).run (run.sessionAt before printed) =
        ((run.outcomes inputs).foldl Progress.add progress, run.sessionAt last
          (((run.outcomes inputs).flatMap (·.notices)).reverse ++ printed)) := by
  induction inputs generalizing progress before printed with
  | nil => exact ⟨before, rfl⟩
  | cons timed inputs ih =>
    obtain ⟨input, elapsed⟩ := timed
    have hstep := run.advance_run progress input elapsed before printed
    rw [List.foldlM_cons, StateT.run_bind, hstep]
    obtain ⟨last, hrun⟩ := ih (progress.add (run.outcome elapsed input)) elapsed
      ((run.outcome elapsed input).notices.reverse ++ printed)
    refine ⟨last, hrun.trans ?_⟩
    rw [outcomes, outcomes, List.map_cons, List.flatMap_cons, List.reverse_append,
      List.append_assoc, List.foldl_cons]

theorem results_foldl_add (outcomes : List Outcome) (progress : Progress) :
    (outcomes.foldl Progress.add progress).results.toList =
      progress.results.toList ++ outcomes.filterMap (·.result?) := by
  induction outcomes generalizing progress with
  | nil => exact (List.append_nil _).symm
  | cons outcome outcomes ih =>
    rw [List.foldl_cons, ih, Progress.results_add, List.append_assoc, List.filterMap_cons]
    cases outcome.result? <;> rfl

theorem failures_foldl_add (outcomes : List Outcome) (progress : Progress) :
    (outcomes.foldl Progress.add progress).failures =
      progress.failures + outcomes.countP fun outcome ↦ !outcome.result.isOk := by
  induction outcomes generalizing progress with
  | nil => rfl
  | cons outcome outcomes ih =>
    rw [List.foldl_cons, ih, Progress.failures_add, List.countP_cons]
    omega

/-- A run comes to what its inputs come to by themselves: their results in order, the number of
those without one, and the lines about all of them after the lines that are there. -/
theorem processInputs_run (inputs : List (Input × Time.Duration)) :
    ∃ progress session,
      (run.processInputs inputs).run run.session = (progress, session) ∧
      progress.results.toList = (run.outcomes inputs).filterMap (·.result?) ∧
      progress.failures = (run.outcomes inputs).countP (fun outcome ↦ !outcome.result.isOk) ∧
      session.lines = run.session.lines ++ (run.outcomes inputs).flatMap (·.notices) := by
  obtain ⟨last, hrun⟩ := run.foldlM_advance_run inputs {} run.session.elapsed run.session.printed
  refine ⟨_, _, hrun, results_foldl_add _ {},
    (failures_foldl_add _ {}).trans (Nat.zero_add _), ?_⟩
  change List.reverse (_ ++ _) = _
  rw [List.reverse_append, List.reverse_reverse]
  rfl

/-- The report of a run tells what its inputs come to by themselves. -/
theorem finish_eq (arguments : Arguments) (inputs : List (Input × Time.Duration)) :
    run.finish arguments inputs =
      { exitCode := if (run.outcomes inputs).all (·.result.isOk) then 0 else 1
        output := arguments.render ((run.outcomes inputs).filterMap (·.result?))
        notices := run.session.lines ++ (run.outcomes inputs).flatMap (·.notices) } := by
  obtain ⟨progress, session, hrun, hresults, hfailures, hlines⟩ := run.processInputs_run inputs
  have hexit : (progress.failures = 0) = ((run.outcomes inputs).all (·.result.isOk) = true) := by
    rw [hfailures]
    simp
  simp only [finish, hrun, hresults, hlines, hexit]

end Run

/-! ### Whole command lines -/

namespace Run

/-- Goes on with a value that is known. -/
theorem bind_run_of_eq {α β : Type} {first : Logged α} {session : Session} {value : α}
    (hfirst : (first.run session).1 = value) (next : α → Logged β) :
    (first >>= next).run session = (next value).run (first.run session).2 := by
  subst hfirst
  rfl

/-- Something is registered about every code that may be reported. -/
theorem validate_run (session : Session) : (Pipeline.validate.run session).1 = .ok () := by
  have hregistered : Pipeline.reportedCodes.find? (·.info?.isNone) = none := by decide
  rw [Pipeline.validate, hregistered]
  rfl

/-- Logging can be started once, since the limits in force suit it. -/
theorem begin_run (settings : Settings) (session : Session) (hfresh : session.settings = none) :
    ((begin settings).run session).1 = .ok () := by
  have hstart : ((Session.start settings.logging).run session).1 = .ok () :=
    (Session.start_ok_iff settings.logging session).2
      ⟨Limits.startFault?_eq_none_iff.2 Limits.startable_current, hfresh⟩
  rw [begin, bind_run_of_eq hstart]
  exact congrArg Prod.fst (bind_run_of_eq (validate_run _) _)

/-- A run can be started whenever its settings are known. -/
theorem exists_prepare (place : Surroundings) (arguments : Arguments) (settings : Settings)
    (hsettings : arguments.settings place = .ok settings) :
    ∃ run, prepare place arguments = .ok run ∧ run.place = place ∧ run.settings = settings := by
  have hbegin := begin_run settings
    { environment := place.environment, now := place.now, elapsed := .zero } rfl
  rw [prepare, hsettings]
  dsimp only
  split
  · rename_i hrun
    rw [hrun] at hbegin
    cases hbegin
  · exact ⟨_, rfl, rfl, rfl⟩

variable (run : Run)

/-- What a run comes to on inputs. -/
def progress (inputs : List (Input × Time.Duration)) : Progress :=
  ((run.processInputs inputs).run run.session).1

/-- The inputs of a run do not touch one another: all that is told about them is made of what each
of them comes to alone. -/
structure Isolates (arguments : Arguments) (inputs : List (Input × Time.Duration))
    (alone : Input → Except Failure Result) : Prop where
  accounts : (run.progress inputs).results.size + (run.progress inputs).failures = inputs.length
  results : (run.progress inputs).results.toList.map Result.untimed =
    inputs.filterMap fun (input, _) ↦ (alone input).toOption.map Result.untimed
  output : (run.finish arguments inputs).output =
    let results := (run.progress inputs).results.toList
    match arguments.format.getD .text with
    | .json =>
      (Json.Value.array
        (results.map fun result ↦ (result.report arguments.metrics).toJson)).toLines ++ "\n"
    | .text => String.join (results.map fun result ↦
      (if 2 ≤ results.length then "==> " ++ result.name ++ " <==\n" else "") ++
        (result.report arguments.metrics).renderText arguments.summary)
  notices : (run.finish arguments inputs).notices =
    run.session.lines ++ inputs.flatMap fun (input, elapsed) ↦
      (run.outcome elapsed input).log ++
        match alone input with
        | .ok _ => []
        | .error failure =>
          ["error[" ++ failure.code.text ++ "]: " ++ input.name ++ ": " ++ failure.message]
  exitCode : (run.finish arguments inputs).exitCode =
    if inputs.all fun (input, _) ↦ (alone input).isOk then 0 else 1
  /-- The output is as if the inputs without a result were not there. -/
  others : (run.finish arguments (inputs.filter fun (input, _) ↦ (alone input).isOk)).output =
    (run.finish arguments inputs).output

/-- Whatever is made of the results, but not of the time taken, is made of what the inputs come to
alone. -/
theorem Isolates.map_results {run : Run} {arguments : Arguments}
    {inputs : List (Input × Time.Duration)} {alone : Input → Except Failure Result}
    (hisolates : run.Isolates arguments inputs alone) {β : Type} (f : Result → β)
    (huntimed : ∀ result : Result, f result.untimed = f result) :
    (run.progress inputs).results.toList.map f =
      inputs.filterMap fun (input, _) ↦ (alone input).toOption.map f := by
  have hresults := congrArg (List.map f) hisolates.results
  simpa only [List.map_map, List.map_filterMap, Option.map_map, Function.comp_def, huntimed]
    using hresults

/-- Runs keep inputs apart, whatever else happened in the sessions in which these are processed
alone. -/
theorem isolates (arguments : Arguments) (inputs : List (Input × Time.Duration))
    (other : Input → Session) :
    run.Isolates arguments inputs
      fun input ↦ input.alone run.place run.settings (other input) := by
  simp only [← Input.process_run_fst]
  obtain ⟨progress, session, hrun, hresults, hfailures, hlines⟩ := run.processInputs_run inputs
  have hprogress : run.progress inputs = progress := congrArg Prod.fst hrun
  have hfinish := run.finish_eq arguments inputs
  have huntimed (timed : Input × Time.Duration) :=
    run.outcome_untimed timed.1 timed.2 (other timed.1)
  constructor
  case accounts =>
    have hsize : progress.results.size = (run.outcomes inputs).countP (·.result.isOk) := by
      rw [← Array.length_toList, hresults, List.length_filterMap_eq_countP]
      refine List.countP_congr fun outcome _ ↦ ?_
      rw [Outcome.result?]
      cases outcome.result <;> exact Iff.rfl
    have hcount := List.length_eq_countP_add_countP (l := run.outcomes inputs) (·.result.isOk)
    have hlength : (run.outcomes inputs).length = inputs.length := List.length_map ..
    rw [hprogress, hsize, hfailures, ← hlength, hcount]
    simp only [Bool.not_eq_true, Bool.decide_eq_false]
  case results =>
    rw [hprogress, hresults, outcomes, List.filterMap_map, List.map_filterMap]
    exact congrArg (List.filterMap · inputs) (funext fun timed ↦
      toOption_eq_of_untimed (huntimed timed))
  case output =>
    rw [hfinish, hprogress, hresults, Arguments.render]
    cases arguments.format.getD .text with
    | json => simp only [List.map_map, Function.comp_def]
    | text =>
      simp only [List.map_map, List.length_map, Function.comp_def, Arguments.renderText,
        decide_eq_true_eq, Nat.lt_iff_add_one_le, Result.report]
  case notices =>
    rw [hfinish, outcomes, List.flatMap_map]
    refine congrArg (run.session.lines ++ List.flatMap · inputs) (funext fun timed ↦ ?_)
    refine congrArg ((run.outcome timed.2 timed.1).log ++ ·) ?_
    refine (congrArg Option.toList (complaint?_eq_of_untimed (huntimed timed) timed.1 [])).trans ?_
    rw [Outcome.complaint?]
    cases ((timed.1.process run.place run.settings).run (other timed.1)).1 <;> rfl
  case exitCode =>
    rw [hfinish, outcomes, List.all_map]
    have hall : (fun timed : Input × Time.Duration ↦ (run.outcome timed.2 timed.1).result.isOk) =
        fun timed ↦ (((timed.1.process run.place run.settings).run (other timed.1)).1).isOk :=
      funext fun timed ↦ isOk_eq_of_untimed (huntimed timed)
    exact congrArg (fun isOk ↦ if inputs.all isOk then 0 else 1) hall
  case others =>
    rw [hfinish, finish_eq]
    refine congrArg arguments.render ?_
    rw [outcomes, outcomes, List.filterMap_map, List.filterMap_map, List.filterMap_filter]
    refine congrArg (List.filterMap · inputs) (funext fun timed ↦ ?_)
    obtain ⟨failure, hfirst, hsecond⟩ | ⟨result, result', hfirst, hsecond, -⟩ :=
      cases_of_untimed (huntimed timed)
    · simp [Outcome.result?, hfirst, hsecond, Except.toOption]
    · simp [Outcome.result?, hfirst, hsecond, Except.isOk, Except.toBool]

end Run

/-- A command line whose settings are known is answered by a run on its inputs in order, the
standard input before the files, and the run keeps them apart. -/
theorem respond_isolates (place : Surroundings) (words : List String) (arguments : Arguments)
    (settings : Settings) (hwords : Arguments.parse place.environment words = .ok arguments)
    (hsettings : arguments.settings place = .ok settings) :
    ∃ run : Run, Run.prepare place arguments = .ok run ∧
      run.place = place ∧ run.settings = settings ∧
      (∀ elapsed : Input → Time.Duration,
        respond place elapsed words = run.finish arguments
          (((if arguments.stdin then [Input.stdin] else []) ++ arguments.files.map Input.file).map
            fun input ↦ (input, elapsed input))) ∧
      ∀ (inputs : List (Input × Time.Duration)) (other : Input → Session),
        run.Isolates arguments inputs fun input ↦ input.alone place settings (other input) := by
  obtain ⟨run, hprepare, rfl, rfl⟩ := Run.exists_prepare place arguments settings hsettings
  refine ⟨run, hprepare, rfl, rfl, fun elapsed ↦ ?_, fun inputs other ↦ ?_⟩
  · rw [respond, hwords]
    change CommandLine.run run.place elapsed arguments = _
    rw [CommandLine.run, hprepare]
    rfl
  · exact run.isolates arguments inputs other

/-- Files that are not there leave the standard input what it is. -/
theorem respond_isolates_missing_files :
    let place : Surroundings := {
      environment := fun _ ↦ none
      disk := fun _ ↦ .missing .notFound
      stdin := .ok "1"
      now := .epoch }
    let words := ["a", "--stdin", "b"]
    let arguments : Arguments := { files := ["a", "b"], stdin := true }
    let settings := arguments.override (.ofEnvironment place.environment)
    Arguments.parse place.environment words = .ok arguments ∧
    arguments.settings place = .ok settings ∧
    (respond place (fun _ ↦ .zero) words).exitCode = 1 ∧
    (respond place (fun _ ↦ .zero) words).output = "NUMBER(1)\n" := by
  intro place words arguments settings
  have hwords : Arguments.parse place.environment words = .ok arguments := by rfl
  have hsettings : arguments.settings place = .ok settings := by rfl
  obtain ⟨run, -, -, -, hrespond, hisolates⟩ :=
    respond_isolates place words arguments settings hwords hsettings
  let session : Session := { environment := place.environment, now := place.now, elapsed := .zero }
  let inputs : List (Input × Time.Duration) :=
    [(.stdin, .zero), (.file "a", .zero), (.file "b", .zero)]
  have hapart := hisolates inputs fun _ ↦ session
  have hmissing (path : String) (hpath : Text.isBlankText path = false) :
      (Input.file path).alone place settings session = .error (.file (.notFound path)) :=
    Pipeline.processFile_missing place.disk settings path session hpath rfl
  have ha := hmissing "a" (by rw [Text.isBlankText_eq]; decide)
  have hb := hmissing "b" (by rw [Text.isBlankText_eq]; decide)
  have hstdin : (Input.stdin.alone place settings session).toOption.map
      (fun result ↦ (result.report false).renderText false) = some "NUMBER(1)\n" := by
    decide +kernel
  have htexts : (run.progress inputs).results.toList.map
      (fun result ↦ (result.report false).renderText false) = ["NUMBER(1)\n"] := by
    refine (hapart.map_results _ fun result ↦ result.renderText_untimed false).trans ?_
    simp only [inputs, List.filterMap_cons, List.filterMap_nil, ha, hb, Except.toOption,
      Option.map_none]
    exact congrArg (·.toList) hstdin
  refine ⟨hwords, hsettings, ?_, ?_⟩
  · rw [hrespond]
    refine hapart.exitCode.trans (if_neg ?_)
    simp only [inputs, List.all_cons, ha, Bool.and_eq_true]
    exact fun ⟨_, hok, _⟩ ↦ Bool.false_ne_true hok
  · rw [hrespond]
    refine hapart.output.trans ?_
    have hsingle : (run.progress inputs).results.toList.length = 1 :=
      (List.length_map _).symm.trans (congrArg List.length htexts)
    change String.join ((run.progress inputs).results.toList.map fun result ↦
      (if 2 ≤ (run.progress inputs).results.toList.length then _ else "") ++ _) = _
    rw [hsingle]
    simp only [show ¬ 2 ≤ 1 by decide, if_false, String.empty_append]
    exact congrArg String.join htexts

end CommandLine

end Lexeme
