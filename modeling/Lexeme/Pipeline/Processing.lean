import Lexeme.Log.Session
import Lexeme.Pipeline.Failure
import Lexeme.Pipeline.Result
import Lexeme.Scan.Trace

/-!
# Processing inputs

Processing of one input: a file is loaded, its text is scanned, and the scan mode gives its verdict.
What is logged on the way carries the name of the input. A text that comes from elsewhere takes the
same way without being loaded.
-/

set_option autoImplicit false
set_option relaxedAutoImplicit false

namespace Lexeme.Pipeline

open Log (Entry Logged)
open Log.Session (follow log withSource)

namespace Result

/-- Number of things per second as a whole number, if any time passes. -/
def perSecond (duration : Time.Duration) (count : Nat) : String :=
  match Time.Duration.rate? count duration.seconds with
  | some rate => rate.fixed 0
  | none => "n/a"

/-- That an input is done, and how fast. -/
def completed (result : Result) : Entry :=
  (Entry.success .pipelineCompleted "Token scanning pipeline completed").withContext [
    ("duration_ms", result.duration.milliseconds.fixed 3), ("source", result.name),
    ("mode", result.mode.name), ("tokens", toString result.tokenCount),
    ("diagnostics", toString result.diagnosticCount),
    ("bytes_per_sec", perSecond result.duration result.bytes),
    ("tokens_per_sec", perSecond result.duration result.tokenCount)]

end Result

/-- Makes a result of a scan and logs it, if its speed is to be logged. -/
def conclude (settings : Settings) (name : String) (metadata : Option Files.Metadata)
    (source : String) (scan : ScanOutput) : Logged Result := do
  let result : Result :=
    ⟨name, settings.scan.mode, scan, metadata, source.utf8ByteSize, (← get).elapsed⟩
  if settings.files.performanceLogging then log result.completed
  pure result

/-- Processes a text under a name. -/
def processSource (settings : Settings) (name source : String) :
    Logged (Except Failure Result) :=
  withSource name do
    match ← follow (judgedScan settings.scan source) with
    | .error error => pure (.error (.scan error))
    | .ok scan => .ok <$> conclude settings name none source scan

/-- That the processing of a file starts. -/
def fileStarted (settings : Settings) (path : String) : Entry :=
  (Entry.info "Starting token scanning pipeline").withContext [
    ("file", path), ("mode", settings.scan.mode.name)]

/-- Processes the file at a path. While its text is scanned, its canonical path is the name of the
input. -/
def processFile (disk : Files.Disk) (settings : Settings) (path : String) :
    Logged (Except Failure Result) :=
  withSource path do
    log (fileStarted settings path)
    let loader := Files.Loader.ofSettings settings.files
    match ← follow (loader.load disk (← get).elapsed path) with
    | .error error => pure (.error (.file error))
    | .ok file =>
      match ← withSource file.metadata.path (follow (judgedScan settings.scan file.source)) with
      | .error error => pure (.error (.scan error))
      | .ok scan => .ok <$> conclude settings path (some file.metadata) file.source scan

/-- The codes that loading and scanning may report. -/
def reportedCodes : List Log.Code := [
  .fileNotFound, .invalidExtension, .fileTooLarge, .permissionDenied, .invalidEncoding, .ioError,
  .invalidPath, .unrecognizedCharacter, .unterminatedString, .diagnosticLimitReached]

/-- The limits of loading. -/
def fileLimits : Entry :=
  (Entry.debug "File processor compile-time configuration loaded").withContext [
    ("max_file_size", toString Limits.current.maxFileSize),
    ("large_file_threshold", toString Limits.current.largeFileThreshold)]

/-- The limits of scanning. -/
def scanLimits : Entry :=
  (Entry.debug "Lexical limits initialized").withContext [
    ("max_diagnostics", toString Limits.current.maxDiagnostics),
    ("max_diagnostic_fragment_length", toString Limits.current.maxFragmentLength),
    ("max_tracked_operators", toString Limits.current.maxTrackedOperators)]

/-- Checks that something is registered about every code that may be reported, and logs the limits
in force. -/
def validate : Logged (Except Failure Unit) := do
  match reportedCodes.find? (·.info?.isNone) with
  | some code => pure (.error (.internal ("code " ++ code.text ++ " is not registered")))
  | none =>
    log fileLimits
    log scanLimits
    pure (.ok ())

end Lexeme.Pipeline
