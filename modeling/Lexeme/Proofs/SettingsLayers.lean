import Lexeme.CommandLine.Run
import Lexeme.Proofs.CommandWords
import Lexeme.Proofs.Lowercase
import Lexeme.Proofs.TomlDocument

/-!
# Layers of settings

Every one of the nine settings (`Setting`) is chosen in layers: the command line comes before the
settings file, the file before the environment, and the environment before what is built in
(`Setting.effective`). Each layer is described by itself, field by field: the key that states a
setting in a document (`Setting.stated?`), the variable that chooses it and the texts that the
variable may have (`Setting.variableName`, `Setting.parse?`). A document suits the settings if all
that it states can be read (`Toml.Suits`), and no other document is read at all
(`Settings.Format.settings?_eq_some_iff`). So the settings of a run are the effective ones in every
field, or the document is refused as a whole (`CommandLine.Arguments.settings_layered`).
-/

set_option autoImplicit false
set_option relaxedAutoImplicit false

namespace Lexeme

/-! ### Fields of records -/

namespace Toml.Value

/-- Whether the value can be read as a record. -/
def isRecord : Value → Bool
  | table _ => true
  | array _ => true
  | date => true
  | _ => false

/-- The field of a record with a name among the names of its fields: an entry of a table under the
name, or an item of an array in the place of the name. -/
def field? (names : List String) (name : String) : Value → Option Value
  | table entries => entries.lookup name
  | array items => items[names.idxOf name]?
  | _ => none

theorem fields?_eq {names : List String} (hnames : names.Nodup) (value : Value) :
    value.fields? names =
      if value.isRecord then some (names.map fun name ↦ value.field? names name) else none := by
  cases value with
  | table entries => rfl
  | date => rfl
  | array items =>
    refine congrArg some (List.ext_getElem ?_ fun place hplace hplace' ↦ ?_)
    · rw [List.length_append, List.length_replicate, List.length_map, List.length_take,
        List.length_map]
      omega
    · rw [List.length_map] at hplace'
      simp only [List.getElem_map, field?, hnames.idxOf_getElem]
      by_cases hitem : place < items.length
      · rw [List.getElem_append_left (by simp; omega)]
        simp [hitem]
      · rw [List.getElem_append_right (by simp; omega), List.getElem_replicate, eq_comm,
          List.getElem?_eq_none_iff]
        omega
  | _ => rfl

end Toml.Value

/-! ### The settings one by one -/

/-- A part of the settings, which has a section of its own. -/
inductive Settings.Part where
  | files
  | scan
  | logging
  deriving DecidableEq

namespace Settings.Part

def name : Part → String
  | files => "file_processor"
  | scan => "lexical"
  | logging => "logging"

/-- The names of all parts in order. -/
def names : List String :=
  [files.name, scan.name, logging.name]

/-- The keys of the part in order. -/
def keys : Part → List String
  | files => ["required_extension", "enable_performance_logging"]
  | scan => ["mode", "collect_detailed_metrics", "track_operator_patterns",
      "log_dropped_characters"]
  | logging => ["use_structured_logging", "enable_console_logging", "min_log_level"]

/-- What a document has under the name of the part. -/
def stated? (part : Part) (document : Toml.Value) : Option Toml.Value :=
  document.field? names part.name

end Settings.Part

/-- One of the settings. -/
inductive Setting where
  | requiredExtension
  | performanceLogging
  | mode
  | detailedMetrics
  | trackOperators
  | logDropped
  | structured
  | console
  | minLevel
  deriving DecidableEq

namespace Setting

/-- What can be chosen for the setting. -/
abbrev Choice : Setting → Type
  | requiredExtension => Option String
  | mode => ScanMode
  | minLevel => Log.Level
  | _ => Bool

/-- The choice that settings hold. -/
def of (settings : Settings) : (setting : Setting) → setting.Choice
  | requiredExtension => settings.files.requiredExtension
  | performanceLogging => settings.files.performanceLogging
  | mode => settings.scan.mode
  | detailedMetrics => settings.scan.detailedMetrics
  | trackOperators => settings.scan.trackOperators
  | logDropped => settings.scan.logDropped
  | structured => settings.logging.structured
  | console => settings.logging.console
  | minLevel => settings.logging.minLevel

/-- The settings with a choice for each. -/
def assemble (choice : (setting : Setting) → setting.Choice) : Settings where
  files := ⟨choice requiredExtension, choice performanceLogging⟩
  scan := ⟨choice mode, choice detailedMetrics, choice trackOperators, choice logDropped⟩
  logging := ⟨choice structured, choice console, choice minLevel⟩

@[simp] theorem of_assemble (choice : (setting : Setting) → setting.Choice) (setting : Setting) :
    setting.of (assemble choice) = choice setting := by
  cases setting <;> rfl

/-- There is nothing in settings but these choices. -/
theorem ext_of {first second : Settings}
    (h : ∀ setting : Setting, setting.of first = setting.of second) : first = second := by
  have hfirst : first = assemble fun setting ↦ setting.of first := rfl
  have hsecond : second = assemble fun setting ↦ setting.of second := rfl
  rw [hfirst, hsecond, funext h]

/-- The part that the setting belongs to. -/
def part : Setting → Settings.Part
  | requiredExtension | performanceLogging => .files
  | mode | detailedMetrics | trackOperators | logDropped => .scan
  | structured | console | minLevel => .logging

/-- The key of the setting in its part. -/
def key : Setting → String
  | requiredExtension => "required_extension"
  | performanceLogging => "enable_performance_logging"
  | mode => "mode"
  | detailedMetrics => "collect_detailed_metrics"
  | trackOperators => "track_operator_patterns"
  | logDropped => "log_dropped_characters"
  | structured => "use_structured_logging"
  | console => "enable_console_logging"
  | minLevel => "min_log_level"

/-- The environment variable of the setting. -/
def variableName : Setting → String
  | requiredExtension => "TOKSCAN_REQUIRED_EXTENSION"
  | performanceLogging => "TOKSCAN_ENABLE_PERFORMANCE_LOGGING"
  | mode => "TOKSCAN_LEXICAL_MODE"
  | detailedMetrics => "TOKSCAN_LEXICAL_DETAILED_METRICS"
  | trackOperators => "TOKSCAN_LEXICAL_TRACK_OPERATORS"
  | logDropped => "TOKSCAN_LEXICAL_LOG_DROPPED"
  | structured => "TOKSCAN_LOGGING_USE_STRUCTURED"
  | console => "TOKSCAN_LOGGING_ENABLE_CONSOLE"
  | minLevel => "TOKSCAN_LOGGING_MIN_LEVEL"

/-- What is chosen where nothing else is. -/
def builtIn : (setting : Setting) → setting.Choice
  | requiredExtension => none
  | performanceLogging => true
  | mode => .lenient
  | detailedMetrics => true
  | trackOperators => false
  | logDropped => false
  | structured => false
  | console => false
  | minLevel => .warning

/-- The texts of a switch in a variable. -/
def switchTexts : List (String × Bool) :=
  [("true", true), ("false", false)]

/-- The texts of a mode in a document, and in a variable up to the case of letters. -/
def modeTexts : List (String × ScanMode) :=
  [("lenient", .lenient), ("strict", .strict)]

/-- The texts of a level in a variable, up to the case of letters. -/
def levelTexts : List (String × Log.Level) := [
  ("error", .error), ("0", .error), ("warning", .warning), ("warn", .warning), ("1", .warning),
  ("info", .info), ("2", .info), ("debug", .debug), ("3", .debug)]

/-- The names of a level in a document. -/
def levelNames : List (String × Log.Level) :=
  [("error", .error), ("warning", .warning), ("info", .info), ("debug", .debug)]

/-- The choice that a text in the variable makes, if it can be parsed. An extension is one without
the dots in front, in lower case. -/
def parse? : (setting : Setting) → String → Option setting.Choice
  | requiredExtension => fun text ↦
    if text.toList.all fun c ↦ Text.IsWhite c then none
    else some (some (Text.lowercase (String.ofList (text.toList.dropWhile (· == '.')))))
  | mode => fun text ↦ modeTexts.lookup text.toLower
  | minLevel => fun text ↦ levelTexts.lookup text.toLower
  | performanceLogging | detailedMetrics | trackOperators | logDropped | structured | console =>
    fun text ↦ switchTexts.lookup text

/-- The choice that a value in a document makes, if it is of the right kind. -/
def read? : (setting : Setting) → Toml.Value → Option setting.Choice
  | requiredExtension => fun value ↦ value.text?.map some
  | mode => fun value ↦ value.choice?.bind fun name ↦ modeTexts.lookup name
  | minLevel => fun value ↦ value.choice?.bind fun name ↦ levelNames.lookup name
  | performanceLogging | detailedMetrics | trackOperators | logDropped | structured | console =>
    Toml.Value.flag?

/-- The value that a document has for the setting. -/
def stated? (document : Toml.Value) (setting : Setting) : Option Toml.Value :=
  (setting.part.stated? document).bind (Toml.Value.field? setting.part.keys setting.key)

/-- The choice that the command line makes. A level that is given brings out the console. -/
def override? (arguments : CommandLine.Arguments) : (setting : Setting) → Option setting.Choice
  | mode => if arguments.strict then some .strict else none
  | console => arguments.logLevel.map fun _ ↦ true
  | minLevel => arguments.logLevel
  | _ => none

/-- The choice that all layers make together, the first of them that makes one. -/
def effective (arguments : CommandLine.Arguments) (document : Option Toml.Value)
    (environment : Environment) (setting : Setting) : setting.Choice :=
  ((setting.override? arguments).or
    (((document.bind fun document ↦ setting.stated? document).bind setting.read?).or
      ((environment setting.variableName).bind setting.parse?))).getD setting.builtIn

end Setting

/-! ### The environment -/

/-- A table of plain names is looked up in the same way with any lower case. -/
theorem Text.lookup_lowercase {α : Type} {table : List (String × α)}
    (hplain : table.all (fun entry ↦ entry.1.toList.all fun d ↦ IsPlain d) = true)
    (text : String) : table.lookup (lowercase text) = table.lookup text.toLower := by
  induction table with
  | nil => rfl
  | cons entry table ih =>
    obtain ⟨hchars, htable⟩ := Bool.and_eq_true_iff.1 hplain
    have hentry : ∀ d ∈ entry.1.toList, IsPlain d :=
      fun d hd ↦ of_decide_eq_true (List.all_eq_true.1 hchars d hd)
    have hsame : (lowercase text == entry.1) = (text.toLower == entry.1) := by
      rw [Bool.eq_iff_iff, beq_iff_eq, beq_iff_eq, lowercase_eq_iff hentry]
    rw [List.lookup_cons, List.lookup_cons, hsame, ih htable]

theorem Environment.flag?_eq (text : String) : flag? text = Setting.switchTexts.lookup text := by
  unfold flag?
  split
  · rfl
  · rfl
  · rw [eq_comm, List.lookup_eq_none_iff]
    simp_all [Setting.switchTexts]

theorem ScanMode.ofName?_eq (name : String) : ofName? name = Setting.modeTexts.lookup name := by
  unfold ofName?
  split
  · rfl
  · rfl
  · rw [eq_comm, List.lookup_eq_none_iff]
    simp_all [Setting.modeTexts]

theorem ScanMode.parse?_eq (text : String) :
    parse? text = Setting.modeTexts.lookup text.toLower := by
  rw [parse?, ofName?_eq, Text.lookup_lowercase (by decide)]

theorem Log.Level.ofName?_eq (name : String) : ofName? name = Setting.levelNames.lookup name := by
  unfold ofName?
  split
  iterate 4 rfl
  rw [eq_comm, List.lookup_eq_none_iff]
  simp_all [Setting.levelNames]

theorem Log.Level.parse?_eq (text : String) :
    parse? text = Setting.levelTexts.lookup text.toLower := by
  rw [← Text.lookup_lowercase (by decide), parse?]
  generalize Text.lowercase text = name
  split
  iterate 9 rfl
  rw [eq_comm, List.lookup_eq_none_iff]
  simp_all [Setting.levelTexts]

namespace Setting

theorem of_ofEnvironment (environment : Environment) (setting : Setting) :
    setting.of (.ofEnvironment environment) =
      ((environment setting.variableName).bind setting.parse?).getD setting.builtIn := by
  have hflag : Environment.flag? = fun text ↦ switchTexts.lookup text :=
    funext Environment.flag?_eq
  have hmode : ScanMode.parse? = fun text ↦ modeTexts.lookup text.toLower :=
    funext ScanMode.parse?_eq
  have hlevel : Log.Level.parse? = fun text ↦ levelTexts.lookup text.toLower :=
    funext Log.Level.parse?_eq
  cases setting with
  | requiredExtension =>
    change environment.extension? "TOKSCAN_REQUIRED_EXTENSION" = _
    rw [Environment.extension?, variableName]
    cases environment "TOKSCAN_REQUIRED_EXTENSION" with
    | none => rfl
    | some text =>
      have hwhite : (text.toList.all fun c ↦ Text.IsWhite c) = Text.isBlankText text := by
        rw [Bool.eq_iff_iff, Text.isBlankText_iff]
        simp
      simp only [Option.bind_some, parse?, hwhite]
      cases hblank : Text.isBlankText text <;>
        simp [hblank, builtIn, Text.plainExtension, Text.dropDots]
  | mode =>
    change ((environment _).bind ScanMode.parse?).getD _ = _
    rw [hmode]
    rfl
  | minLevel =>
    change ((environment _).bind Log.Level.parse?).getD _ = _
    rw [hlevel]
    rfl
  | _ =>
    change ((environment _).bind Environment.flag?).getD _ = _
    rw [hflag]
    rfl

theorem of_override (arguments : CommandLine.Arguments) (settings : Settings) (setting : Setting) :
    setting.of (arguments.override settings) =
      (setting.override? arguments).getD (setting.of settings) := by
  cases setting with
  | requiredExtension | performanceLogging => rfl
  | mode | detailedMetrics | trackOperators | logDropped =>
    unfold CommandLine.Arguments.override override? of
    cases arguments.strict <;> rfl
  | structured | console | minLevel =>
    unfold CommandLine.Arguments.override override? of
    cases arguments.logLevel <;> rfl

end Setting

/-! ### Documents -/

/-- A document from which settings can be read: everything that it states is of the right kind. -/
structure Toml.Value.Suits (document : Toml.Value) : Prop where
  isRecord : document.isRecord = true
  part_isRecord : ∀ (part : Settings.Part) (value : Toml.Value),
    part.stated? document = some value → value.isRecord = true
  read?_isSome : ∀ (setting : Setting) (value : Toml.Value),
    setting.stated? document = some value → (setting.read? value).isSome = true

namespace Settings.Format

theorem fieldOr_eq_some_iff {V α : Type} {read : V → Option α} {present choice : α}
    {entry : Option V} :
    fieldOr read present entry = some choice ↔
      (∀ value, entry = some value → (read value).isSome = true) ∧
        choice = (entry.bind read).getD present := by
  cases entry with
  | none =>
    constructor
    · intro h
      exact ⟨fun value hvalue ↦ absurd hvalue.symm (Option.some_ne_none value),
        (Option.some.inj h).symm⟩
    · rintro ⟨-, rfl⟩
      rfl
  | some value =>
    rw [fieldOr, Option.bind_some]
    constructor
    · intro h
      rw [h]
      exact ⟨fun other hother ↦ by rw [← Option.some.inj hother, h, Option.isSome_some], rfl⟩
    · rintro ⟨hsome, rfl⟩
      exact (Option.getD_of_ne_none (Option.isSome_iff_ne_none.1 (hsome value rfl)) _).symm

/-! ### Reading the parts -/

/-- The choice for a setting that the section of its part makes over a present one. -/
def choose? (setting : Setting) (present : setting.Choice) (entry : Option Toml.Value) :
    Option setting.Choice :=
  fieldOr setting.read? present
    (entry.bind (Toml.Value.field? setting.part.keys setting.key))

section Parts

variable {entry : Option Toml.Value}

theorem settingsFormat_fields? {names : List String} (hnames : names.Nodup) (value : Toml.Value) :
    Toml.settingsFormat.fields? names value =
      if value.isRecord then some (names.map fun name ↦ value.field? names name) else none :=
  Toml.Value.fields?_eq hnames value

theorem mode?_eq : Toml.settingsFormat.mode? = Setting.mode.read? :=
  funext fun value ↦ congrArg value.choice?.bind (funext ScanMode.ofName?_eq)

theorem level?_eq : Toml.settingsFormat.level? = Setting.minLevel.read? :=
  funext fun value ↦ congrArg value.choice?.bind (funext Log.Level.ofName?_eq)

theorem files?_eq_some_iff {present files : FileSettings} :
    fieldOr (Toml.settingsFormat.files? present) present entry = some files ↔
      (∀ value, entry = some value → value.isRecord = true) ∧
        choose? .requiredExtension present.requiredExtension entry =
          some files.requiredExtension ∧
        choose? .performanceLogging present.performanceLogging entry =
          some files.performanceLogging := by
  cases entry with
  | none =>
    cases present
    cases files
    simp [fieldOr, choose?]
  | some value =>
    rw [fieldOr, files?, settingsFormat_fields? (by decide)]
    cases hrecord : value.isRecord
    · simp [hrecord]
    · simp only [if_true, List.map_cons, List.map_nil, Option.bind_eq_bind, Option.bind_some,
        Option.bind_eq_some_iff, Option.some.injEq, forall_eq', hrecord, true_and]
      constructor
      · rintro ⟨extension, hextension, performance, hperformance, rfl⟩
        exact ⟨hextension, hperformance⟩
      · rintro ⟨hextension, hperformance⟩
        exact ⟨_, hextension, _, hperformance, rfl⟩

theorem scan?_eq_some_iff {present scan : ScanSettings} :
    fieldOr (Toml.settingsFormat.scan? present) present entry = some scan ↔
      (∀ value, entry = some value → value.isRecord = true) ∧
        choose? .mode present.mode entry = some scan.mode ∧
        choose? .detailedMetrics present.detailedMetrics entry = some scan.detailedMetrics ∧
        choose? .trackOperators present.trackOperators entry = some scan.trackOperators ∧
        choose? .logDropped present.logDropped entry = some scan.logDropped := by
  cases entry with
  | none =>
    cases present
    cases scan
    simp [fieldOr, choose?]
  | some value =>
    rw [fieldOr, scan?, mode?_eq, settingsFormat_fields? (by decide)]
    cases hrecord : value.isRecord
    · simp [hrecord]
    · simp only [if_true, List.map_cons, List.map_nil, Option.bind_eq_bind, Option.bind_some,
        Option.bind_eq_some_iff, Option.some.injEq, forall_eq', hrecord, true_and]
      constructor
      · rintro ⟨mode, hmode, detailed, hdetailed, track, htrack, log, hlog, rfl⟩
        exact ⟨hmode, hdetailed, htrack, hlog⟩
      · rintro ⟨hmode, hdetailed, htrack, hlog⟩
        exact ⟨_, hmode, _, hdetailed, _, htrack, _, hlog, rfl⟩

theorem logging?_eq_some_iff {present logging : LogSettings} :
    fieldOr (Toml.settingsFormat.logging? present) present entry = some logging ↔
      (∀ value, entry = some value → value.isRecord = true) ∧
        choose? .structured present.structured entry = some logging.structured ∧
        choose? .console present.console entry = some logging.console ∧
        choose? .minLevel present.minLevel entry = some logging.minLevel := by
  cases entry with
  | none =>
    cases present
    cases logging
    simp [fieldOr, choose?]
  | some value =>
    rw [fieldOr, logging?, level?_eq, settingsFormat_fields? (by decide)]
    cases hrecord : value.isRecord
    · simp [hrecord]
    · simp only [if_true, List.map_cons, List.map_nil, Option.bind_eq_bind, Option.bind_some,
        Option.bind_eq_some_iff, Option.some.injEq, forall_eq', hrecord, true_and]
      constructor
      · rintro ⟨structured, hstructured, console, hconsole, level, hlevel, rfl⟩
        exact ⟨hstructured, hconsole, hlevel⟩
      · rintro ⟨hstructured, hconsole, hlevel⟩
        exact ⟨_, hstructured, _, hconsole, _, hlevel, rfl⟩

end Parts

section Whole

variable {present settings : Settings} {document : Toml.Value}

/-- Settings are read from a document over present ones just if it is a record of records and the
values that it states can be read. Each setting is then read for itself. -/
theorem settings?_eq_some_iff :
    Toml.settingsFormat.settings? present document = some settings ↔
      document.isRecord = true ∧
        (∀ (part : Part) (value : Toml.Value),
          part.stated? document = some value → value.isRecord = true) ∧
        ∀ setting : Setting,
          choose? setting (setting.of present) (setting.part.stated? document) =
            some (setting.of settings) := by
  rw [settings?, settingsFormat_fields? (by decide)]
  cases hrecord : document.isRecord
  · simp
  · simp only [if_true, List.map_cons, List.map_nil, Option.bind_eq_bind, Option.bind_some,
      Option.bind_eq_some_iff, Option.some.injEq, true_and, files?_eq_some_iff,
      scan?_eq_some_iff, logging?_eq_some_iff]
    constructor
    · rintro ⟨files, ⟨hfiles, hextension, hperformance⟩,
        scan, ⟨hscan, hmode, hdetailed, htrack, hlog⟩,
        logging, ⟨hlogging, hstructured, hconsole, hlevel⟩, rfl⟩
      refine ⟨fun part ↦ ?_, fun setting ↦ ?_⟩
      · cases part with
        | files => exact hfiles
        | scan => exact hscan
        | logging => exact hlogging
      · cases setting with
        | requiredExtension => exact hextension
        | performanceLogging => exact hperformance
        | mode => exact hmode
        | detailedMetrics => exact hdetailed
        | trackOperators => exact htrack
        | logDropped => exact hlog
        | structured => exact hstructured
        | console => exact hconsole
        | minLevel => exact hlevel
    · rintro ⟨hparts, hchosen⟩
      exact ⟨settings.files,
        ⟨hparts .files, hchosen .requiredExtension, hchosen .performanceLogging⟩,
        settings.scan,
        ⟨hparts .scan, hchosen .mode, hchosen .detailedMetrics, hchosen .trackOperators,
          hchosen .logDropped⟩,
        settings.logging,
        ⟨hparts .logging, hchosen .structured, hchosen .console, hchosen .minLevel⟩, rfl⟩

/-- From a document that suits them, settings are read with the choice that is stated, or the one
that was present. -/
theorem settings?_of_suits (hsuits : document.Suits) :
    Toml.settingsFormat.settings? present document =
      some (Setting.assemble fun setting ↦
        ((setting.stated? document).bind setting.read?).getD (setting.of present)) := by
  refine settings?_eq_some_iff.2 ⟨hsuits.isRecord, hsuits.part_isRecord, fun setting ↦ ?_⟩
  rw [Setting.of_assemble]
  exact fieldOr_eq_some_iff.2 ⟨hsuits.read?_isSome setting, rfl⟩

theorem settings?_of_not_suits (hsuits : ¬ document.Suits) :
    Toml.settingsFormat.settings? present document = none := by
  rw [Option.eq_none_iff_forall_ne_some]
  intro settings hsettings
  obtain ⟨hrecord, hparts, hchosen⟩ := settings?_eq_some_iff.1 hsettings
  exact hsuits ⟨hrecord, hparts, fun setting ↦ (fieldOr_eq_some_iff.1 (hchosen setting)).1⟩

end Whole

end Settings.Format

/-! ### The settings of a run -/

namespace CommandLine.Arguments

variable (arguments : Arguments) (place : Surroundings)

/-- The effective choice in the absence of a settings file. -/
theorem of_override_ofEnvironment (setting : Setting) :
    setting.of (arguments.override (.ofEnvironment place.environment)) =
      setting.effective arguments none place.environment := by
  rw [Setting.of_override, Setting.of_ofEnvironment, Setting.effective, Option.getD_or]
  rfl

/-- The effective choice where a document suits the settings. -/
theorem of_override_read (document : Toml.Value) (setting : Setting) :
    setting.of (arguments.override (Setting.assemble fun setting ↦
        ((setting.stated? document).bind setting.read?).getD
          (setting.of (.ofEnvironment place.environment)))) =
      setting.effective arguments (some document) place.environment := by
  rw [Setting.of_override, Setting.of_assemble, Setting.of_ofEnvironment, Setting.effective,
    Option.getD_or, Option.getD_or]
  rfl

theorem settings_of_path {path text : String} (hpath : arguments.config = some path)
    (hread : place.disk.readText path = .ok text) :
    arguments.settings place = arguments.override <$> Settings.ofToml place.environment text := by
  rw [settings, hpath]
  simp only [Settings.ofFile, hread]

/-- The settings of a run with the arguments that its words give, layer by layer. -/
theorem settings_layered {words : List String}
    (hwords : parse place.environment words = .ok arguments) :
    (arguments.strict = true ↔ "--strict" ∈ optionWords words) ∧
    (∀ level, arguments.logLevel = some level ↔
      ∃ text, GivesLevel words text ∧ Setting.levelTexts.lookup text.toLower = some level) ∧
    match arguments.config with
    | none => ∃ settings, arguments.settings place = .ok settings ∧
        ∀ setting : Setting,
          setting.of settings = setting.effective arguments none place.environment
    | some path => ∀ text, place.disk.readText path = .ok text →
        match Toml.Value.ofText? text with
        | none => arguments.settings place = .error .malformed
        | some document =>
          (document.Suits → ∃ settings, arguments.settings place = .ok settings ∧
            ∀ setting : Setting,
              setting.of settings = setting.effective arguments (some document) place.environment) ∧
          (¬ document.Suits → arguments.settings place = .error .unsuitable) := by
  refine ⟨strict_parse_iff hwords, fun level ↦ ?_, ?_⟩
  · simp only [← Log.Level.parse?_eq]
    exact logLevel_parse_iff hwords level
  · cases hpath : arguments.config with
    | none =>
      refine ⟨arguments.override (.ofEnvironment place.environment), ?_,
        of_override_ofEnvironment arguments place⟩
      rw [settings, hpath]
    | some path =>
      intro text hread
      rw [settings_of_path arguments place hpath hread, Settings.ofToml]
      cases hdocument : Toml.Value.ofText? text with
      | none => rfl
      | some document =>
        refine ⟨fun hsuits ↦ ?_, fun hsuits ↦ ?_⟩
        · refine ⟨_, ?_, of_override_read arguments place document⟩
          simp only [Settings.Format.settings?_of_suits hsuits]
          rfl
        · simp only [Settings.Format.settings?_of_not_suits hsuits]
          rfl

/-- The sections of a settings file that states some settings of two parts. -/
def partialSections : List Toml.Section := [
  ⟨"lexical", [("mode", .text "lenient"), ("track_operator_patterns", .flag true)]⟩,
  ⟨"logging", [("min_log_level", .text "info")]⟩]

theorem suits_partialSections :
    (Toml.Value.table (partialSections.map fun part ↦ (part.name, part.toValue))).Suits := by
  refine ⟨rfl, fun part value h ↦ ?_, fun setting value h ↦ ?_⟩
  · cases part <;> cases h <;> rfl
  · cases setting <;> cases h <;> rfl

/-- What the file states comes before the environment and after the command line; where it is silent
the environment is heard, and an extension in it loses its dots and its capitals. -/
theorem settings_layered_partial :
    let text := String.ofList (Toml.documentText partialSections)
    let given := [("TOKSCAN_REQUIRED_EXTENSION", "..TÄG"),
      ("TOKSCAN_LEXICAL_TRACK_OPERATORS", "false"), ("TOKSCAN_LEXICAL_LOG_DROPPED", "true"),
      ("TOKSCAN_LOGGING_MIN_LEVEL", "Debug")]
    let environment : Environment := fun name ↦ given.lookup name
    let place : Surroundings := ⟨environment, fun _ ↦ .device text.toUTF8, .ok "", ⟨0, 0⟩⟩
    ∃ arguments : Arguments,
      parse environment ["--strict", "--config=settings.toml", "a.src"] = .ok arguments ∧
        arguments.settings place =
          .ok ⟨⟨some "täg", true⟩, ⟨.strict, true, true, true⟩, ⟨false, false, .info⟩⟩ := by
  intro text given environment place
  have hdocument : Toml.Value.ofText? text =
      some (.table (partialSections.map fun part ↦ (part.name, part.toValue))) :=
    Toml.ofText?_documentText
      (List.forall_mem_cons.2 ⟨⟨by decide, by decide, by decide⟩,
        List.forall_mem_singleton.2 ⟨by decide, by decide, by decide⟩⟩) (by decide)
  have hwords : parse environment ["--strict", "--config=settings.toml", "a.src"] =
      .ok { files := ["a.src"], strict := true, config := some "settings.toml" } := rfl
  obtain ⟨-, -, hfile⟩ := settings_layered _ place hwords
  have hread := hfile text (Files.textOf_eq_ok_iff.2 rfl)
  rw [hdocument] at hread
  obtain ⟨settings, hsettings, hchosen⟩ := hread.1 suits_partialSections
  refine ⟨_, hwords, hsettings.trans (congrArg Except.ok (Setting.ext_of fun setting ↦ ?_))⟩
  have hset : place.environment setting.variableName =
      match setting with
      | .requiredExtension => some "..TÄG"
      | .trackOperators => some "false"
      | .logDropped => some "true"
      | .minLevel => some "Debug"
      | _ => none := by
    cases setting <;> rfl
  rw [hchosen setting, Setting.effective, hset]
  cases setting with
  | requiredExtension =>
    have hparsed : Setting.requiredExtension.parse? "..TÄG" = some (some "täg") := by
      decide +kernel
    rw [Option.bind_some, Option.bind_some, hparsed]
    rfl
  | _ => rfl

end CommandLine.Arguments

end Lexeme
