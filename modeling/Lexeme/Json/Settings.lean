import Lexeme.Json.Value
import Lexeme.Settings.Format

/-!
# JSON form of settings

Settings are written as an object of three sections, and read back over settings that are present.
-/

set_option autoImplicit false
set_option relaxedAutoImplicit false

namespace Lexeme

open Json (Value)

/-- How JSON shows itself to a reader of settings. -/
def Json.settingsFormat : Settings.Format Value where
  isNull := Value.isNull
  text? := Value.text?
  flag? := Value.flag?
  choice? := Value.choice?
  fields? := Value.fields?

namespace FileSettings

def toJson (settings : FileSettings) : Value :=
  .object [
    ("required_extension", (settings.requiredExtension.map Value.string).getD .null),
    ("enable_performance_logging", .boolean settings.performanceLogging)]

end FileSettings

namespace ScanMode

def toJson (mode : ScanMode) : Value :=
  .string mode.name

end ScanMode

namespace ScanSettings

def toJson (settings : ScanSettings) : Value :=
  .object [
    ("mode", settings.mode.toJson),
    ("collect_detailed_metrics", .boolean settings.detailedMetrics),
    ("track_operator_patterns", .boolean settings.trackOperators),
    ("log_dropped_characters", .boolean settings.logDropped)]

end ScanSettings

namespace Log.Level

def toJson (level : Level) : Value :=
  .string level.name

end Log.Level

namespace LogSettings

def toJson (settings : LogSettings) : Value :=
  .object [
    ("use_structured_logging", .boolean settings.structured),
    ("enable_console_logging", .boolean settings.console),
    ("min_log_level", settings.minLevel.toJson)]

end LogSettings

namespace Settings

def toJson (settings : Settings) : Value :=
  .object [
    ("file_processor", settings.files.toJson),
    ("lexical", settings.scan.toJson),
    ("logging", settings.logging.toJson)]

/-- Settings read from JSON over those that are present. -/
def ofJson? (present : Settings) (value : Value) : Option Settings :=
  Json.settingsFormat.settings? present value

end Settings

end Lexeme
