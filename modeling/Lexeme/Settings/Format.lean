import Lexeme.Settings.Basic

/-!
# Settings from structured data

Reading settings from structured data of any format. Settings are a record of three sections, each a
record of its own; a field that is missing leaves the setting as it was, and a value of the wrong
kind makes the whole unreadable.
-/

set_option autoImplicit false
set_option relaxedAutoImplicit false

namespace Lexeme

/-- What a reader of settings can ask of a value of some format. -/
structure Settings.Format (V : Type) where
  /-- Whether the value says that there is none. -/
  isNull : V → Bool
  text? : V → Option String
  flag? : V → Option Bool
  /-- The name of a choice among several. -/
  choice? : V → Option String
  /-- The fields of a record by their names, those that are there. -/
  fields? : List String → V → Option (List (Option V))

namespace Settings.Format

variable {V : Type} (format : Format V)

/-- Reads a field if it is there. -/
def fieldOr {α : Type} (read : V → Option α) (present : α) : Option V → Option α
  | some value => read value
  | none => some present

/-- An optional text; a value that says there is none counts as one. -/
def optionalText? (value : V) : Option (Option String) :=
  if format.isNull value then some none else (format.text? value).map some

def mode? (value : V) : Option ScanMode :=
  (format.choice? value).bind ScanMode.ofName?

def level? (value : V) : Option Log.Level :=
  (format.choice? value).bind Log.Level.ofName?

def files? (present : FileSettings) (value : V) : Option FileSettings := do
  let [extension, performance] ←
    format.fields? ["required_extension", "enable_performance_logging"] value | none
  some {
    requiredExtension := ← fieldOr format.optionalText? present.requiredExtension extension
    performanceLogging := ← fieldOr format.flag? present.performanceLogging performance }

def scan? (present : ScanSettings) (value : V) : Option ScanSettings := do
  let [mode, detailed, track, log] ← format.fields?
    ["mode", "collect_detailed_metrics", "track_operator_patterns", "log_dropped_characters"]
    value | none
  some {
    mode := ← fieldOr format.mode? present.mode mode
    detailedMetrics := ← fieldOr format.flag? present.detailedMetrics detailed
    trackOperators := ← fieldOr format.flag? present.trackOperators track
    logDropped := ← fieldOr format.flag? present.logDropped log }

def logging? (present : LogSettings) (value : V) : Option LogSettings := do
  let [structured, console, level] ← format.fields?
    ["use_structured_logging", "enable_console_logging", "min_log_level"] value | none
  some {
    structured := ← fieldOr format.flag? present.structured structured
    console := ← fieldOr format.flag? present.console console
    minLevel := ← fieldOr format.level? present.minLevel level }

/-- Settings read over those that are present. -/
def settings? (present : Settings) (value : V) : Option Settings := do
  let [files, scan, logging] ←
    format.fields? ["file_processor", "lexical", "logging"] value | none
  some {
    files := ← fieldOr (format.files? present.files) present.files files
    scan := ← fieldOr (format.scan? present.scan) present.scan scan
    logging := ← fieldOr (format.logging? present.logging) present.logging logging }

end Settings.Format

end Lexeme
