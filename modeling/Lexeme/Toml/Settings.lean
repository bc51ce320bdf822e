import Lexeme.Log.Code
import Lexeme.Settings.Environment
import Lexeme.Settings.Format
import Lexeme.Toml.Document
import Lexeme.Toml.Reader

/-!
# TOML form of settings

A settings file has a section for each part of the settings, and a key that is missing in it leaves
the setting as the environment chooses it.
-/

set_option autoImplicit false
set_option relaxedAutoImplicit false

namespace Lexeme

/-- How TOML shows itself to a reader of settings. It has no way to say that a value is none. -/
def Toml.settingsFormat : Settings.Format Toml.Value where
  isNull := fun _ ↦ false
  text? := Toml.Value.text?
  flag? := Toml.Value.flag?
  choice? := Toml.Value.choice?
  fields? := Toml.Value.fields?

/-- Why settings could not be loaded. -/
inductive SettingsError where
  /-- The file at a path could not be read. -/
  | unreadable (path cause : String)
  /-- The text is no TOML document. -/
  | malformed
  /-- A known key has a value of the wrong kind. -/
  | unsuitable
  deriving Repr, DecidableEq

namespace SettingsError

def message : SettingsError → String
  | unreadable path cause => "Failed to read configuration file " ++ path ++ ": " ++ cause
  | malformed => "Invalid configuration TOML: not a TOML document"
  | unsuitable => "Invalid configuration TOML: a value does not suit its key"

def code : SettingsError → Log.Code
  | unreadable _ _ => .configurationError
  | malformed => .configurationError
  | unsuitable => .configurationError

end SettingsError

/-- An extension that is not required has no line. -/
def FileSettings.toSection (settings : FileSettings) : Toml.Section where
  name := "file_processor"
  entries :=
    (settings.requiredExtension.map fun extension ↦
      ("required_extension", .text extension)).toList ++
    [("enable_performance_logging", .flag settings.performanceLogging)]

def ScanSettings.toSection (settings : ScanSettings) : Toml.Section where
  name := "lexical"
  entries := [
    ("mode", .text settings.mode.name),
    ("collect_detailed_metrics", .flag settings.detailedMetrics),
    ("track_operator_patterns", .flag settings.trackOperators),
    ("log_dropped_characters", .flag settings.logDropped)]

def LogSettings.toSection (settings : LogSettings) : Toml.Section where
  name := "logging"
  entries := [
    ("use_structured_logging", .flag settings.structured),
    ("enable_console_logging", .flag settings.console),
    ("min_log_level", .text settings.minLevel.name)]

namespace Settings

/-- Reads settings from TOML text over those that an environment chooses. -/
def ofToml (environment : Environment) (text : String) : Except SettingsError Settings :=
  match Toml.Value.ofText? text with
  | none => .error .malformed
  | some value =>
    match Toml.settingsFormat.settings? (.ofEnvironment environment) value with
    | none => .error .unsuitable
    | some settings => .ok settings

/-- The sections of a settings file. -/
def sections (settings : Settings) : List Toml.Section :=
  [settings.files.toSection, settings.scan.toSection, settings.logging.toSection]

/-- The settings as TOML text. -/
def toToml (settings : Settings) : String :=
  String.ofList (Toml.documentText settings.sections)

end Settings

end Lexeme
