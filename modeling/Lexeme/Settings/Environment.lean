import Lexeme.Settings.Basic
import Lexeme.Text.Blank
import Lexeme.Text.Extension

/-!
# Settings from the environment

Settings taken from environment variables. A variable that is not set, or whose value does not
parse, leaves its setting as it is built in. Names of modes and levels may be in any letter case.
-/

set_option autoImplicit false
set_option relaxedAutoImplicit false

namespace Lexeme

/-- The values of environment variables that are set. -/
abbrev Environment := String → Option String

namespace Environment

/-- No variable is set. -/
def empty : Environment := fun _ ↦ none

/-- The value of a switch, which must be written exactly. -/
def flag? : String → Option Bool
  | "true" => some true
  | "false" => some false
  | _ => none

/-- The switch that a variable sets, or the given one. -/
def flag (environment : Environment) (name : String) (builtIn : Bool) : Bool :=
  ((environment name).bind flag?).getD builtIn

/-- The extension that a variable gives, unless it is blank. -/
def extension? (environment : Environment) (name : String) : Option String :=
  ((environment name).filter fun value ↦ !Text.isBlankText value).map Text.plainExtension

end Environment

namespace ScanMode

/-- The mode that a text names in any letter case. -/
def parse? (text : String) : Option ScanMode :=
  ofName? (Text.lowercase text)

end ScanMode

namespace Log.Level

/-- The level that a text names, in any letter case, by its short name or by its number. -/
def parse? (text : String) : Option Level :=
  match Text.lowercase text with
  | "error" => some error
  | "0" => some error
  | "warning" => some warning
  | "warn" => some warning
  | "1" => some warning
  | "info" => some info
  | "2" => some info
  | "debug" => some debug
  | "3" => some debug
  | _ => none

/-- What is said about a text that names no level. -/
def unknownMessage (text : String) : String :=
  "unknown log level '" ++ text ++ "'"

end Log.Level

namespace FileSettings

def ofEnvironment (environment : Environment) : FileSettings where
  requiredExtension := environment.extension? "TOKSCAN_REQUIRED_EXTENSION"
  performanceLogging :=
    environment.flag "TOKSCAN_ENABLE_PERFORMANCE_LOGGING" builtIn.performanceLogging

end FileSettings

namespace ScanSettings

def ofEnvironment (environment : Environment) : ScanSettings where
  mode := ((environment "TOKSCAN_LEXICAL_MODE").bind ScanMode.parse?).getD builtIn.mode
  detailedMetrics :=
    environment.flag "TOKSCAN_LEXICAL_DETAILED_METRICS" builtIn.detailedMetrics
  trackOperators := environment.flag "TOKSCAN_LEXICAL_TRACK_OPERATORS" builtIn.trackOperators
  logDropped := environment.flag "TOKSCAN_LEXICAL_LOG_DROPPED" builtIn.logDropped

end ScanSettings

namespace LogSettings

def ofEnvironment (environment : Environment) : LogSettings where
  structured := environment.flag "TOKSCAN_LOGGING_USE_STRUCTURED" builtIn.structured
  console := environment.flag "TOKSCAN_LOGGING_ENABLE_CONSOLE" builtIn.console
  minLevel := ((environment "TOKSCAN_LOGGING_MIN_LEVEL").bind Log.Level.parse?).getD builtIn.minLevel

end LogSettings

namespace Settings

/-- The variables that choose settings. -/
def variableNames : List String := [
  "TOKSCAN_REQUIRED_EXTENSION", "TOKSCAN_ENABLE_PERFORMANCE_LOGGING", "TOKSCAN_LEXICAL_MODE",
  "TOKSCAN_LEXICAL_DETAILED_METRICS", "TOKSCAN_LEXICAL_TRACK_OPERATORS",
  "TOKSCAN_LEXICAL_LOG_DROPPED", "TOKSCAN_LOGGING_USE_STRUCTURED",
  "TOKSCAN_LOGGING_ENABLE_CONSOLE", "TOKSCAN_LOGGING_MIN_LEVEL"]

/-- The settings that an environment chooses. -/
def ofEnvironment (environment : Environment) : Settings where
  files := .ofEnvironment environment
  scan := .ofEnvironment environment
  logging := .ofEnvironment environment

end Settings

end Lexeme
