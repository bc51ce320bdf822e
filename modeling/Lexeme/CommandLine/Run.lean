import Lexeme.CommandLine.Usage
import Lexeme.Pipeline.Processing
import Lexeme.Settings.File

/-!
# Runs of the program

A run of the program. Its inputs are processed one after the other; the results are kept, and an input
without one is counted and does not end the run. The standard output depends on the results only; the
standard error takes what is logged and a line for each input that has no result.
-/

set_option autoImplicit false
set_option relaxedAutoImplicit false

namespace Lexeme.CommandLine

open Log (Logged Session)
open Pipeline (Failure Output Result)

/-- Where a run takes place. -/
structure Surroundings where
  environment : Environment
  disk : Files.Disk
  /-- The text of the standard input, or what is said about it if it cannot be read. -/
  stdin : Except String String
  now : Time.Instant

/-- What is left of a run. -/
structure Report where
  exitCode : Nat
  output : String
  /-- Lines of the standard error. -/
  notices : List String
  deriving Repr, DecidableEq

/-- Something to be scanned. -/
inductive Input where
  | stdin
  | file (path : String)
  deriving Repr, DecidableEq

namespace Input

def name : Input → String
  | stdin => "<stdin>"
  | file path => path

/-- Processes an input. -/
def process (place : Surroundings) (settings : Settings) :
    Input → Logged (Except Failure Result)
  | stdin =>
    match place.stdin with
    | .ok source => Pipeline.processSource settings Input.stdin.name source
    | .error cause => pure (.error (.internal ("failed to read stdin: " ++ cause)))
  | file path => Pipeline.processFile place.disk settings path

/-- The line about an input that has no result. -/
def complaint (input : Input) (failure : Failure) : String :=
  "error[" ++ failure.code.text ++ "]: " ++ input.name ++ ": " ++ failure.message

end Input

/-- What a run has come to: the results so far, and how many inputs have none. -/
structure Progress where
  results : Array Result := #[]
  failures : Nat := 0

/-- Takes in what became of an input. A failure is counted, and a line about it is printed. -/
def Progress.record (progress : Progress) (input : Input) :
    Except Failure Result → Logged Progress
  | .ok result => pure { progress with results := progress.results.push result }
  | .error failure => do
    Session.print (input.complaint failure)
    pure { progress with failures := progress.failures + 1 }

/-- What became of an input that is processed by itself. -/
structure Outcome where
  input : Input
  /-- Lines logged on the way. -/
  log : List String
  result : Except Failure Result

namespace Outcome

/-- The result of an input that has one. -/
def result? (outcome : Outcome) : Option Result :=
  outcome.result.toOption

/-- The line about an input that has no result. -/
def complaint? (outcome : Outcome) : Option String :=
  match outcome.result with
  | .ok _ => none
  | .error failure => some (outcome.input.complaint failure)

/-- Lines of the standard error. -/
def notices (outcome : Outcome) : List String :=
  outcome.log ++ outcome.complaint?.toList

end Outcome

namespace Arguments

/-- The inputs in order: the standard input comes before all files. -/
def inputs (arguments : Arguments) : List Input :=
  (if arguments.stdin then [.stdin] else []) ++ arguments.files.map .file

/-- The settings of a run: those of the settings file or of the environment, with what the command
line says over them. -/
def settings (arguments : Arguments) (place : Surroundings) : Except SettingsError Settings :=
  match arguments.config with
  | some path => arguments.override <$> Settings.ofFile place.environment place.disk path
  | none => .ok (arguments.override (.ofEnvironment place.environment))

/-- A report as text, under its name if there are several. -/
def renderText (arguments : Arguments) (headed : Bool) (output : Output) : String :=
  (if headed then "==> " ++ output.source ++ " <==\n" else "") ++
    output.renderText arguments.summary

/-- The reports about results, in the format that is asked for. -/
def render (arguments : Arguments) (results : List Result) : String :=
  let outputs := results.map (·.report arguments.metrics)
  match arguments.format.getD .text with
  | .json => (Json.Value.array (outputs.map Output.toJson)).toLines ++ "\n"
  | .text => String.join (outputs.map (arguments.renderText (1 < outputs.length)))

end Arguments

/-- A run whose log is started and whose inputs are still to be processed. -/
structure Run where
  place : Surroundings
  settings : Settings
  session : Session

namespace Run

/-- Starts the log and checks what has to hold for every run. -/
def begin (settings : Settings) : Logged (Except String Unit) := do
  match ← Session.start settings.logging with
  | .error error => pure (.error ("failed to initialize logging: " ++ error.message))
  | .ok () =>
    match ← Pipeline.validate with
    | .error failure => pure (.error failure.message)
    | .ok () => pure (.ok ())

/-- A report about a run that ends before its inputs are processed. -/
def refuse (log : List String) (message : String) : Report :=
  ⟨1, "", log ++ ["error: " ++ message]⟩

/-- Makes a run ready. -/
def prepare (place : Surroundings) (arguments : Arguments) : Except Report Run :=
  match arguments.settings place with
  | .error error => .error (refuse [] (Failure.settings error).message)
  | .ok settings =>
    let session : Session :=
      { environment := place.environment, now := place.now, elapsed := .zero }
    match (begin settings).run session with
    | (.error message, session) => .error (refuse session.lines message)
    | (.ok (), session) => .ok ⟨place, settings, session⟩

/-- Processes one more input, in a time that is given. -/
def advance (run : Run) (progress : Progress) (input : Input) (elapsed : Time.Duration) :
    Logged Progress := do
  modify fun session ↦ { session with elapsed := elapsed }
  progress.record input (← input.process run.place run.settings)

/-- Processes inputs one after the other, each in its time. -/
def processInputs (run : Run) (inputs : List (Input × Time.Duration)) : Logged Progress :=
  inputs.foldlM (fun progress (input, elapsed) ↦ run.advance progress input elapsed) {}

/-- Processes all inputs and reports about the run. -/
def finish (run : Run) (arguments : Arguments) (inputs : List (Input × Time.Duration)) : Report :=
  let (progress, session) := (run.processInputs inputs).run run.session
  { exitCode := if progress.failures = 0 then 0 else 1
    output := arguments.render progress.results.toList
    notices := session.lines }

/-- Processes an input by itself, in a time that is given. -/
def outcome (run : Run) (elapsed : Time.Duration) (input : Input) : Outcome :=
  let before := { run.session with printed := [], elapsed := elapsed }
  let (result, after) := (input.process run.place run.settings).run before
  ⟨input, after.lines, result⟩

end Run

/-- Runs the program. Every input takes as long as is given. -/
def run (place : Surroundings) (elapsed : Input → Time.Duration) (arguments : Arguments) : Report :=
  match Run.prepare place arguments with
  | .error report => report
  | .ok run => run.finish arguments (arguments.inputs.map fun input ↦ (input, elapsed input))

/-- Answers a command line that does not lead to a run. -/
def answer (environment : Environment) : Stop → Report
  | .usage error => ⟨2, "", [error.message]⟩
  | .notice notice => ⟨0, notice.text environment, []⟩

/-- Runs the program with the words of a command line. -/
def respond (place : Surroundings) (elapsed : Input → Time.Duration) (words : List String) : Report :=
  match Arguments.parse place.environment words with
  | .error stop => answer place.environment stop
  | .ok arguments => run place elapsed arguments

end Lexeme.CommandLine
