import Lexeme.Proofs.TomlDocument
import Lexeme.Toml.Settings

/-!
# Settings in TOML

Settings are read back from their text in every field, whatever the environment, but for an
extension that is not required: it has no line, and a key that is missing leaves the setting as the
environment chooses it (`Settings.ofToml_toToml_eq`). So settings are read back as they were where
no extension is chosen (`Settings.ofToml_toToml`), and two environments read the same from them just
if an extension is required or both choose the same (`Settings.ofToml_toToml_agree`).
-/

set_option autoImplicit false
set_option relaxedAutoImplicit false

namespace Lexeme

open Toml (settingsFormat)

/-! ### Values of settings -/

theorem ScanMode.ofName?_name (mode : ScanMode) : ofName? mode.name = some mode := by
  cases mode <;> rfl

theorem Log.Level.ofName?_name (level : Level) : ofName? level.name = some level := by
  cases level <;> rfl

namespace Toml

theorem flag?_boolean (value : Bool) : settingsFormat.flag? (.boolean value) = some value :=
  rfl

theorem mode?_name (mode : ScanMode) : settingsFormat.mode? (.string mode.name) = some mode :=
  mode.ofName?_name

theorem level?_name (level : Log.Level) : settingsFormat.level? (.string level.name) = some level :=
  level.ofName?_name

end Toml

/-! ### Sections -/

namespace FileSettings

theorem wellFormed_toSection (settings : FileSettings) : settings.toSection.WellFormed := by
  have hkeys : settings.toSection.entries.map Prod.fst =
      (if settings.requiredExtension.isSome then ["required_extension"] else []) ++
        ["enable_performance_logging"] := by
    rw [toSection]
    cases settings.requiredExtension <;> rfl
  constructor
  · exact (by decide : Toml.IsBare "file_processor")
  · rw [hkeys]
    split <;> decide
  · rw [hkeys]
    split <;> decide

/-- An extension that is not required is read as whatever is present. -/
theorem files?_toSection (settings present : FileSettings) :
    settingsFormat.files? present settings.toSection.toValue =
      some { settings with
        requiredExtension := settings.requiredExtension.or present.requiredExtension } := by
  rw [toSection]
  cases settings.requiredExtension <;> rfl

end FileSettings

namespace ScanSettings

theorem wellFormed_toSection (settings : ScanSettings) : settings.toSection.WellFormed := by
  have hkeys : settings.toSection.entries.map Prod.fst = ["mode", "collect_detailed_metrics",
      "track_operator_patterns", "log_dropped_characters"] := rfl
  constructor
  · exact (by decide : Toml.IsBare "lexical")
  · rw [hkeys]
    decide
  · rw [hkeys]
    decide

theorem scan?_toSection (settings present : ScanSettings) :
    settingsFormat.scan? present settings.toSection.toValue = some settings := by
  have hfields : settingsFormat.fields? ["mode", "collect_detailed_metrics",
      "track_operator_patterns", "log_dropped_characters"] settings.toSection.toValue =
    some [some (.string settings.mode.name), some (.boolean settings.detailedMetrics),
      some (.boolean settings.trackOperators), some (.boolean settings.logDropped)] := rfl
  rw [Settings.Format.scan?, hfields]
  simp [Settings.Format.fieldOr, Toml.mode?_name, Toml.flag?_boolean]

end ScanSettings

namespace LogSettings

theorem wellFormed_toSection (settings : LogSettings) : settings.toSection.WellFormed := by
  have hkeys : settings.toSection.entries.map Prod.fst = ["use_structured_logging",
      "enable_console_logging", "min_log_level"] := rfl
  constructor
  · exact (by decide : Toml.IsBare "logging")
  · rw [hkeys]
    decide
  · rw [hkeys]
    decide

theorem logging?_toSection (settings present : LogSettings) :
    settingsFormat.logging? present settings.toSection.toValue = some settings := by
  have hfields : settingsFormat.fields? ["use_structured_logging", "enable_console_logging",
      "min_log_level"] settings.toSection.toValue =
    some [some (.boolean settings.structured), some (.boolean settings.console),
      some (.string settings.minLevel.name)] := rfl
  rw [Settings.Format.logging?, hfields]
  simp [Settings.Format.fieldOr, Toml.level?_name, Toml.flag?_boolean]

end LogSettings

/-! ### Texts -/

namespace Environment

variable (environment : Environment) {name : String}

theorem extension?_of_eq_none (hunset : environment name = none) :
    environment.extension? name = none := by
  rw [extension?, hunset]
  rfl

theorem extension?_of_eq_some {value : String} (hset : environment name = some value)
    (hblank : Text.isBlankText value = false) :
    environment.extension? name = some (Text.plainExtension value) := by
  rw [extension?, hset, Option.filter_some, hblank]
  rfl

end Environment

namespace Settings

theorem ofText?_toToml (settings : Settings) :
    Toml.Value.ofText? settings.toToml =
      some (.table (settings.sections.map fun part ↦ (part.name, part.toValue))) := by
  have hparts : ∀ part ∈ settings.sections, part.WellFormed := by
    simp [sections, FileSettings.wellFormed_toSection, ScanSettings.wellFormed_toSection,
      LogSettings.wellFormed_toSection]
  have hnames : (settings.sections.map Toml.Section.name).Nodup :=
    (by decide : ["file_processor", "lexical", "logging"].Nodup)
  exact Toml.ofText?_documentText hparts hnames

/-- The settings that are read from the text of settings in an environment. -/
theorem ofToml_toToml_eq (environment : Environment) (settings : Settings) :
    ofToml environment settings.toToml =
      .ok { settings with files := { settings.files with
        requiredExtension := settings.files.requiredExtension.or
          (environment.extension? "TOKSCAN_REQUIRED_EXTENSION") } } := by
  have hfields : settingsFormat.fields? ["file_processor", "lexical", "logging"]
      (.table (settings.sections.map fun part ↦ (part.name, part.toValue))) =
        some [some settings.files.toSection.toValue, some settings.scan.toSection.toValue,
          some settings.logging.toSection.toValue] := rfl
  simp only [ofToml, ofText?_toToml, Format.settings?, hfields, Format.fieldOr,
    FileSettings.files?_toSection, ScanSettings.scan?_toSection, LogSettings.logging?_toSection,
    Option.bind_eq_bind, Option.bind_some]
  rfl

/-- Where no extension is chosen, settings are read back from their text as they were. -/
theorem ofToml_toToml (environment : Environment)
    (hunset : environment "TOKSCAN_REQUIRED_EXTENSION" = none) (settings : Settings) :
    ofToml environment settings.toToml = .ok settings := by
  rw [ofToml_toToml_eq, environment.extension?_of_eq_none hunset, Option.or_none]

/-- An extension with runs of both quotes, a backslash, line ends, a control character and a letter
beyond ASCII is read back, whatever other variables choose. -/
theorem ofToml_toToml_quotes :
    let environment : Environment :=
      fun name ↦ if name = "TOKSCAN_LEXICAL_MODE" then some "strict" else none
    let settings : Settings :=
      ⟨⟨some "'''\"\"\"\"\\é\r\n\x01\"\"", false⟩, .builtIn, .production⟩
    environment "TOKSCAN_REQUIRED_EXTENSION" = none ∧
      ofToml environment settings.toToml = .ok settings :=
  ⟨rfl, ofToml_toToml _ rfl _⟩

/-- In any two environments the settings that are read from one text are those that were written but
for the required extension, and they are the same just if the text requires an extension or both
environments choose the same. -/
theorem ofToml_toToml_agree (settings : Settings) (environment other : Environment) :
    (∃ first second : Option String,
      ofToml environment settings.toToml =
        .ok { settings with files := { settings.files with requiredExtension := first } } ∧
      ofToml other settings.toToml =
        .ok { settings with files := { settings.files with requiredExtension := second } }) ∧
    (ofToml environment settings.toToml = ofToml other settings.toToml ↔
      settings.files.requiredExtension.isSome ∨
        environment.extension? "TOKSCAN_REQUIRED_EXTENSION" =
          other.extension? "TOKSCAN_REQUIRED_EXTENSION") := by
  have hfirst := ofToml_toToml_eq environment settings
  have hsecond := ofToml_toToml_eq other settings
  refine ⟨⟨_, _, hfirst, hsecond⟩, ?_⟩
  rw [hfirst, hsecond]
  cases settings.files.requiredExtension with
  | none => simp
  | some extension => simp

/-- An extension that the text does not require is taken from the environment. -/
theorem ofToml_toToml_chosen :
    ofToml .empty (toToml ⟨.builtIn, .builtIn, .builtIn⟩) ≠
      ofToml (fun name ↦ if name = "TOKSCAN_REQUIRED_EXTENSION" then some "src" else none)
        (toToml ⟨.builtIn, .builtIn, .builtIn⟩) := by
  have hblank : Text.isBlankText "src" = false := by
    rw [Text.isBlankText_eq]
    decide
  have hchosen : Environment.extension?
      (fun name ↦ if name = "TOKSCAN_REQUIRED_EXTENSION" then some "src" else none)
      "TOKSCAN_REQUIRED_EXTENSION" = some (Text.plainExtension "src") :=
    Environment.extension?_of_eq_some _ rfl hblank
  rw [ofToml_toToml_eq, ofToml_toToml_eq, Environment.extension?_of_eq_none .empty rfl, hchosen]
  simp [FileSettings.builtIn]

end Settings

end Lexeme
