import Lexeme.CommandLine.Run
import Std.Time.DateTime.Timestamp

/-!
# The program

The program asks the machine for everything a run may look at, has the run answered, and prints the
answer.
-/

set_option autoImplicit false
set_option relaxedAutoImplicit false

namespace Lexeme.Main

open CommandLine (Arguments Input Report Run Surroundings)
open Files (Fault Lookup)

/-- The variables that are set. -/
def environment : IO Environment := do
  let names := Arguments.configVariable :: Settings.variableNames
  let values ← names.filterMapM fun name ↦ do
    pure ((← IO.getEnv name).map fun value ↦ (name, value))
  pure fun name ↦ values.lookup name

/-- Why the system refused an access, by the number that it gives. -/
def faultOf (error : IO.Error) : Fault :=
  match error with
  | .noFileOrDirectory _ _ _ => .notFound
  | .permissionDenied _ _ _ => .permissionDenied
  | .inappropriateType _ 20 _ => .notDirectory
  | .inappropriateType _ 21 _ => .isDirectory
  | .invalidArgument _ 36 _ => .nameTooLong
  | .invalidArgument _ 40 _ => .tooManyLinks
  | error => .other error.toString

/-- The canonical path of the file at a path. -/
def canonicalPath (path : String) : IO (Except Fault String) := do
  try
    pure (.ok (← IO.FS.realPath path).toString)
  catch error =>
    pure (.error (faultOf error))

/-- A regular file of a known size. One that is too large to be loaded is not read. -/
def regularFile (path : String) (size : Nat) (needed : Bool) : IO Lookup := do
  let canonical ← canonicalPath path
  if !needed && Limits.current.maxFileSize < size then
    return .unreadable canonical size (.other "File too large (os error 27)")
  try
    pure (.file canonical (← IO.FS.readBinFile path))
  catch error =>
    pure (.unreadable canonical size (faultOf error))

/-- What is found at a path. What is no regular file is only read if it is needed. -/
def lookUp (needed : Bool) (path : String) : IO Lookup := do
  try
    let metadata ← (System.mkFilePath [path]).metadata
    match metadata.type with
    | .dir => pure .directory
    | .file => regularFile path metadata.byteSize.toNat needed
    | _ => pure (.device (← if needed then IO.FS.readBinFile path else pure .empty))
  catch error =>
    pure (.missing (faultOf error))

/-- The text of the standard input, if it is asked for. -/
def standardInput (arguments : Arguments) : IO (Except String String) := do
  if arguments.stdin then
    try
      pure (Files.textOf (← (← IO.getStdin).readBinToEnd))
    catch error =>
      pure (.error (faultOf error).message)
  else
    pure (.ok "")

/-- Everything that a run with the given arguments may look at. -/
def surroundings (environment : Environment) (arguments : Arguments) : IO Surroundings := do
  let settings ← arguments.config.toList.mapM fun path ↦ do pure (path, ← lookUp true path)
  let files ← arguments.files.mapM fun path ↦ do pure (path, ← lookUp false path)
  let found := settings ++ files
  let now := (← Std.Time.Timestamp.now).toNanosecondsSinceUnixEpoch.val
  pure {
    environment
    disk := fun path ↦ (found.lookup path).getD (.missing .notFound)
    stdin := ← standardInput arguments
    now := ⟨now / 1000000000, (now % 1000000000).toNat⟩ }

/-- Processes an input by itself to learn how long it takes. -/
def timed (run : Run) (input : Input) : IO (Input × Time.Duration) := do
  let start ← IO.monoNanosNow
  let _ ← IO.mkRef (run.outcome .zero input)
  let stop ← IO.monoNanosNow
  pure (input, ⟨stop - start⟩)

/-- Prints a report. -/
def print (report : Report) : IO UInt32 := do
  report.notices.forM IO.eprintln
  IO.print report.output
  pure report.exitCode.toUInt32

end Lexeme.Main

open Lexeme.CommandLine in
open Lexeme.Main in
/-- Runs the program with the words of its command line. -/
def main (words : List String) : IO UInt32 := do
  let environment ← environment
  match Arguments.parse environment words with
  | .error stop => print (answer environment stop)
  | .ok arguments =>
    match Run.prepare (← surroundings environment arguments) arguments with
    | .error report => print report
    | .ok run => print (run.finish arguments (← arguments.inputs.mapM (timed run)))
