import Lexeme.Proofs.Processing

/-!
# A file and its text

A file is processed like any text that comes from elsewhere, once it is loaded. What comes of it is
the verdict of the scan mode on the text that was loaded (`Pipeline.processFile_loaded`), although
this text is scanned under a name of its own, inside the name of the file. A file that cannot be
loaded is not scanned: nothing is logged about it but its loading
(`Pipeline.processFile_not_loaded`). In all cases the session is afterwards as it was before, except
for the lines printed (`Pipeline.processFile_onlyPrints`). So it makes no difference to a result
whether its text was in a file (`Pipeline.processFile_agrees`).
-/

set_option autoImplicit false
set_option relaxedAutoImplicit false

namespace Lexeme

namespace Log.Session

variable {α : Type}

/-- Logging takes no time. -/
theorem log_get_run (entry : Entry) (next : Time.Duration → Logged α) (session : Session) :
    (do log entry; next (← get).elapsed : Logged α).run session =
      (do log entry; next session.elapsed : Logged α).run session := by
  have helapsed := (log_onlyPrints entry session).elapsed
  change (next ((log entry).run session).2.elapsed).run _ = _
  rw [helapsed]
  rfl

/-- What is done under a name is seen from the session that has this name. -/
theorem withSource_run_congr (name : String) (session : Session) {first second : Logged α}
    (hrun : first.run { session with source := some name } =
      second.run { session with source := some name }) :
    (withSource name first).run session = (withSource name second).run session := by
  change ((first.run _).1, { (first.run _).2 with source := session.source }) = _
  rw [hrun]
  rfl

end Log.Session

namespace Pipeline

open Log (Logged OnlyPrints Session)
open Log.Session (follow log withSource log_onlyPrints forM_log_onlyPrints follow_onlyPrints
  log_get_run withSource_run withSource_run_congr follow_bind)

/-! ### A loaded file -/

section Loaded

variable (settings : Settings) (path : String) (file : Files.LoadedFile)

/-- What is done with a loaded file: its text is scanned under its canonical path, and the result
has the path that was asked for. -/
def processLoaded : Logged (Except Failure Result) :=
  withSource file.metadata.path (follow (judgedScan settings.scan file.source)) >>=
    concludeVerdict settings path (some file.metadata) file.source

theorem processLoaded_onlyPrints : OnlyPrints (processLoaded settings path file) :=
  verdict_onlyPrints settings path (some file.metadata) file.source
    ((follow_onlyPrints _).withSource file.metadata.path)

/-- What comes of a loaded file is the verdict of the scan mode on its text. -/
theorem processLoaded_run (session : Session) :
    ((processLoaded settings path file).run session).1 =
      match (scan settings.scan file.source).enforce settings.scan.mode with
      | .error error => .error (.scan error)
      | .ok scan => .ok ⟨path, settings.scan.mode, scan, some file.metadata,
          file.source.utf8ByteSize, session.elapsed⟩ :=
  verdict_run settings path (some file.metadata) file.source
    ((follow_onlyPrints _).withSource file.metadata.path) session

end Loaded

/-! ### A file by its path -/

section File

variable (disk : Files.Disk) (settings : Settings) (path : String)

/-- Loading of the file at a path, in a time that is given. -/
def loading (elapsed : Time.Duration) : Log.Traced Files.FileError Files.LoadedFile :=
  (Files.Loader.ofSettings settings.files).load disk elapsed path

/-- What is logged of a file before its text is scanned: that its processing starts, and what
loading it traces. -/
def logLoading (elapsed : Time.Duration) : Logged Unit := do
  log (fileStarted settings path)
  (loading disk settings path elapsed).trace.forM log

theorem logLoading_onlyPrints (elapsed : Time.Duration) :
    OnlyPrints (logLoading disk settings path elapsed) :=
  (log_onlyPrints _).bind fun _ ↦ forM_log_onlyPrints _

/-- A file is processed under the name that it is asked for by: loading it is logged, and what was
loaded is processed further. -/
theorem processFile_run_eq (session : Session) :
    (processFile disk settings path).run session =
      (withSource path (do
        logLoading disk settings path session.elapsed
        match (loading disk settings path session.elapsed).outcome with
        | .error error => pure (.error (.file error))
        | .ok file => processLoaded settings path file)).run session := by
  refine withSource_run_congr path session ?_
  refine (log_get_run (fileStarted settings path) (fun elapsed ↦ do
    match ← follow (loading disk settings path elapsed) with
    | .error error => pure (.error (.file error))
    | .ok file => processLoaded settings path file) _).trans ?_
  rw [follow_bind, logLoading, bind_assoc]

/-- A file that is not loaded fails with the error of loading it, and nothing but its loading is
logged. -/
theorem processFile_not_loaded (session : Session) {error : Files.FileError}
    (hloading : (loading disk settings path session.elapsed).outcome = .error error) :
    (processFile disk settings path).run session =
      (.error (.file error),
        ((withSource path (logLoading disk settings path session.elapsed)).run session).2) := by
  rw [processFile_run_eq, hloading]
  rfl

/-- A file that is not there is an error of its own. -/
theorem processFile_missing (session : Session) (hpath : Text.isBlankText path = false)
    {fault : Files.Fault} (hmissing : disk path = .missing fault) :
    ((processFile disk settings path).run session).1 = .error (.file (.notFound path)) := by
  have hfind : (Files.Loader.find disk path).outcome = .error (.notFound path) := by
    rw [Files.Loader.find, hpath, if_neg Bool.false_ne_true, hmissing]
    rfl
  have hloading : (loading disk settings path session.elapsed).outcome =
      .error (.notFound path) := by
    rw [loading, Files.Loader.load]
    simp only [Bind.bind, Log.Traced.bind, Log.Traced.note, hfind]
  rw [processFile_not_loaded disk settings path session hloading]

/-- What comes of a file that is loaded is the verdict of the scan mode on its text. -/
theorem processFile_loaded (session : Session) {file : Files.LoadedFile}
    (hloading : (loading disk settings path session.elapsed).outcome = .ok file) :
    ((processFile disk settings path).run session).1 =
      match (scan settings.scan file.source).enforce settings.scan.mode with
      | .error error => .error (.scan error)
      | .ok scan => .ok ⟨path, settings.scan.mode, scan, some file.metadata,
          file.source.utf8ByteSize, session.elapsed⟩ := by
  let named := { session with source := some path }
  let loaded := ((logLoading disk settings path session.elapsed).run named).2
  have helapsed : loaded.elapsed = session.elapsed :=
    (logLoading_onlyPrints disk settings path session.elapsed named).elapsed
  have hrun : ((processFile disk settings path).run session).1 =
      ((processLoaded settings path file).run loaded).1 := by
    rw [processFile_run_eq, hloading]
    rfl
  rw [hrun, processLoaded_run, helapsed]

/-- Processing a file changes a session only by what it prints. -/
theorem processFile_onlyPrints : OnlyPrints (processFile disk settings path) := by
  intro session
  have hbody : OnlyPrints (do
      logLoading disk settings path session.elapsed
      match (loading disk settings path session.elapsed).outcome with
      | .error error => pure (.error (.file error))
      | .ok file => processLoaded settings path file) := by
    refine (logLoading_onlyPrints disk settings path session.elapsed).bind fun _ ↦ ?_
    cases (loading disk settings path session.elapsed).outcome with
    | error error => exact .pure _
    | ok file => exact processLoaded_onlyPrints settings path file
  rw [processFile_run_eq]
  exact hbody.withSource path session

end File

/-- A file that is loaded has a result exactly when its text has one that is given under the same
name, in whatever session, and then the two results differ at most in the time taken and in what is
known about the file. Otherwise both fail with the same error, which is one of the scan and has its
code. A file that is not loaded fails with the error of loading it and its code, and nothing but its
loading is logged, so that it is not scanned. The name of the source at work is afterwards what it
was before. -/
theorem processFile_agrees (disk : Files.Disk) (settings : Settings) (path : String)
    (session other : Session) :
    let fromFile := (processFile disk settings path).run session
    let fromText (source : String) := (processSource settings path source).run other
    (∀ file, (loading disk settings path session.elapsed).outcome = .ok file →
      fromFile.1.isOk = (fromText file.source).1.isOk ∧
      (∀ result, fromFile.1 = .ok result → ∃ plain, (fromText file.source).1 = .ok plain ∧
        plain.metadata = none ∧ result.counts = plain.counts ∧
        result = { plain with metadata := some file.metadata, duration := result.duration }) ∧
      ∀ failure, fromFile.1 = .error failure → (fromText file.source).1 = .error failure ∧
        ∃ error : LexerError, failure = .scan error ∧ failure.code = error.code) ∧
    (∀ error, (loading disk settings path session.elapsed).outcome = .error error →
      fromFile.1 = .error (.file error) ∧ (Failure.file error).code = error.code ∧
      fromFile.2 =
        ((withSource path (logLoading disk settings path session.elapsed)).run session).2) ∧
    fromFile.2.source = session.source ∧
    ∀ source, (fromText source).2.source = other.source := by
  intro fromFile fromText
  refine ⟨fun file hloading ↦ ?_, fun error hloading ↦ ?_, ?_, fun source ↦ ?_⟩
  · have hfile := processFile_loaded disk settings path session hloading
    have htext := processSource_run settings path file.source other
    change fromFile.1 = _ at hfile
    change (fromText file.source).1 = _ at htext
    cases hverdict : (scan settings.scan file.source).enforce settings.scan.mode with
    | error error =>
      simp only [hverdict] at hfile htext
      rw [hfile, htext]
      refine ⟨rfl, nofun, fun failure hfailure ↦ ⟨hfailure, ?_⟩⟩
      obtain rfl := Except.error.inj hfailure
      exact ⟨error, rfl, rfl⟩
    | ok scan =>
      simp only [hverdict] at hfile htext
      rw [hfile, htext]
      refine ⟨rfl, fun result hresult ↦ ?_, nofun⟩
      obtain rfl := Except.ok.inj hresult
      exact ⟨_, rfl, rfl, rfl, rfl⟩
  · have hfile : fromFile = _ := processFile_not_loaded disk settings path session hloading
    rw [hfile]
    exact ⟨rfl, rfl, rfl⟩
  · exact (processFile_onlyPrints disk settings path session).source
  · exact (processSource_onlyPrints settings path source other).source

end Pipeline

end Lexeme
