import Lexeme.Settings.Environment

/-!
# Arguments of a command line

The command line. Words are read from left to right, and the first one that cannot be taken ends the
reading; so does a request for help or for the version. An option is given once at most. A word that
starts with a dash is an option, unless it is a dash alone or comes after two dashes; every other word
is a file.
-/

set_option autoImplicit false
set_option relaxedAutoImplicit false

namespace Lexeme.CommandLine

/-- How reports are written. -/
inductive Format where
  | text
  | json
  deriving Repr, DecidableEq

/-- The format of a name, which must be written exactly. -/
def Format.ofName? : String → Option Format
  | "text" => some text
  | "json" => some json
  | _ => none

/-- What a user asks for. -/
structure Arguments where
  files : List String := []
  /-- Whether the standard input is an input. -/
  stdin : Bool := false
  strict : Bool := false
  format : Option Format := none
  /-- Path of a settings file. -/
  config : Option String := none
  logLevel : Option Log.Level := none
  summary : Bool := false
  metrics : Bool := false
  deriving Repr, DecidableEq

/-- Options without a value. -/
inductive Flag where
  | stdin
  | strict
  | summary
  | metrics
  deriving Repr, DecidableEq

/-- Options with a value. -/
inductive Key where
  | format
  | config
  | logLevel
  deriving Repr, DecidableEq

/-- Requests that are answered instead of a run. -/
inductive Notice where
  | help
  | version
  deriving Repr, DecidableEq

/-- Why a command line is refused. -/
inductive UsageError where
  | unknownOption (word : String)
  | missingValue (key : Key)
  | needlessValue (word : String)
  | invalidValue (key : Key) (value : String)
  | repeated (word : String)
  | emptyFile
  | noInput
  deriving Repr, DecidableEq

/-- Why a command line does not lead to a run. -/
inductive Stop where
  | usage (error : UsageError)
  | notice (notice : Notice)
  deriving Repr, DecidableEq

namespace Flag

def name : Flag → String
  | stdin => "stdin"
  | strict => "strict"
  | summary => "summary"
  | metrics => "metrics"

def isRaised (arguments : Arguments) : Flag → Bool
  | stdin => arguments.stdin
  | strict => arguments.strict
  | summary => arguments.summary
  | metrics => arguments.metrics

def set (arguments : Arguments) : Flag → Arguments
  | stdin => { arguments with stdin := true }
  | strict => { arguments with strict := true }
  | summary => { arguments with summary := true }
  | metrics => { arguments with metrics := true }

/-- Takes a flag in, unless it was given before. -/
def raise (arguments : Arguments) (flag : Flag) : Except Stop Arguments :=
  if flag.isRaised arguments then .error (.usage (.repeated flag.name))
  else .ok (flag.set arguments)

end Flag

namespace Key

def name : Key → String
  | format => "format"
  | config => "config"
  | logLevel => "log-level"

def isAssigned (arguments : Arguments) : Key → Bool
  | format => arguments.format.isSome
  | config => arguments.config.isSome
  | logLevel => arguments.logLevel.isSome

/-- The arguments with a value, if it suits the key. -/
def set? (arguments : Arguments) (value : String) : Key → Option Arguments
  | format => (Format.ofName? value).map fun format ↦ { arguments with format := some format }
  | config => if value.isEmpty then none else some { arguments with config := some value }
  | logLevel => (Log.Level.parse? value).map fun level ↦ { arguments with logLevel := some level }

/-- Takes a value in, unless the key had one before or the value does not suit it. -/
def assign (arguments : Arguments) (key : Key) (value : String) : Except Stop Arguments :=
  if key.isAssigned arguments then .error (.usage (.repeated key.name))
  else
    match key.set? arguments value with
    | some arguments => .ok arguments
    | none => .error (.usage (.invalidValue key value))

end Key

/-- Takes a file in. -/
def Arguments.addFile (arguments : Arguments) (path : String) : Except Stop Arguments :=
  if path.isEmpty then .error (.usage .emptyFile)
  else .ok { arguments with files := arguments.files ++ [path] }

/-- What a word is before two dashes in a row were seen. -/
inductive Word where
  | file (path : String)
  /-- Two dashes: only files follow. -/
  | rule
  | flag (flag : Flag)
  | assignment (key : Key) (value : String)
  /-- A key whose value is the next word. -/
  | pending (key : Key)
  | notice (notice : Notice)
  | refused (error : UsageError)
  deriving Repr, DecidableEq

namespace Word

/-- The word that a long name and the value attached to it stand for. -/
def ofLong (name : String) (value : Option String) : Word :=
  let plain (word : Word) : Word := if value.isSome then refused (.needlessValue name) else word
  let keyed (key : Key) : Word := match value with
    | some value => assignment key value
    | none => pending key
  match name with
  | "stdin" => plain (flag .stdin)
  | "strict" => plain (flag .strict)
  | "summary" => plain (flag .summary)
  | "metrics" => plain (flag .metrics)
  | "format" => keyed .format
  | "config" => keyed .config
  | "log-level" => keyed .logLevel
  | "help" => plain (notice .help)
  | "version" => plain (notice .version)
  | _ => refused (.unknownOption name)

/-- The word of a key's letter and what follows it: a value, with or without a sign between. -/
def ofLetter (key : Key) : List Char → Word
  | [] => pending key
  | '=' :: value => assignment key (String.ofList value)
  | value => assignment key (String.ofList value)

/-- The word of a dash, a letter and what follows. -/
def ofShort : List Char → Word
  | 'f' :: rest => ofLetter .format rest
  | 'c' :: rest => ofLetter .config rest
  | 'h' :: _ => notice .help
  | 'V' :: _ => notice .version
  | letters => refused (.unknownOption (String.ofList letters))

/-- The word of two dashes and what follows. -/
def ofDashes (rest : List Char) : Word :=
  let name := String.ofList (rest.takeWhile (· != '='))
  match rest.dropWhile (· != '=') with
  | [] => ofLong name none
  | _ :: value => ofLong name (some (String.ofList value))

def ofText (text : String) : Word :=
  match text.toList with
  | '-' :: '-' :: [] => rule
  | '-' :: '-' :: rest => ofDashes rest
  | '-' :: letter :: rest => ofShort (letter :: rest)
  | _ => file text

end Word

namespace Arguments

/-- Reads words on top of arguments. -/
def read (arguments : Arguments) : List String → Except Stop Arguments
  | [] => .ok arguments
  | text :: rest =>
    match Word.ofText text with
    | .file path => do read (← arguments.addFile path) rest
    | .rule => rest.foldlM addFile arguments
    | .flag flag => do read (← flag.raise arguments) rest
    | .assignment key value => do read (← key.assign arguments value) rest
    | .pending key =>
      match rest with
      | [] => .error (.usage (.missingValue key))
      | text :: rest =>
        match Word.ofText text with
        | .file value => do read (← key.assign arguments value) rest
        | _ => .error (.usage (.missingValue key))
    | .notice notice => .error (.notice notice)
    | .refused error => .error (.usage error)

/-- The variable that stands for the path of a settings file. -/
def configVariable : String := "TOKSCAN_CONFIG"

/-- The arguments with what the environment says about options that are missing. -/
def fill (environment : Environment) (arguments : Arguments) : Except Stop Arguments :=
  match arguments.config, environment configVariable with
  | none, some path => Key.config.assign arguments path
  | _, _ => .ok arguments

/-- Refuses arguments without any input. -/
def demandInput (arguments : Arguments) : Except Stop Arguments :=
  if arguments.stdin || !arguments.files.isEmpty then .ok arguments
  else .error (.usage .noInput)

/-- The arguments that words and an environment give. -/
def parse (environment : Environment) (words : List String) : Except Stop Arguments := do
  let arguments ← read {} words
  demandInput (← arguments.fill environment)

/-- Settings with what the command line says over them. -/
def override (arguments : Arguments) (settings : Settings) : Settings where
  files := settings.files
  scan := if arguments.strict then { settings.scan with mode := .strict } else settings.scan
  logging := match arguments.logLevel with
    | some level => { settings.logging with minLevel := level, console := true }
    | none => settings.logging

end Arguments

end Lexeme.CommandLine
