import Lexeme.Log.Level

/-!
# Settings

Settings that a user may choose for a run, in three sections: files, scanning and logging.
-/

set_option autoImplicit false
set_option relaxedAutoImplicit false

namespace Lexeme

/-- What a scan makes of unterminated strings and unrecognized characters. -/
inductive ScanMode where
  /-- Both are passed over. -/
  | lenient
  /-- The first of them is an error. -/
  | strict
  deriving Repr, DecidableEq, Inhabited

namespace ScanMode

def name : ScanMode → String
  | lenient => "lenient"
  | strict => "strict"

def ofName? : String → Option ScanMode
  | "lenient" => some lenient
  | "strict" => some strict
  | _ => none

def isStrict : ScanMode → Bool
  | lenient => false
  | strict => true

end ScanMode

/-- Settings for loading files. The required extension is kept as it was given. -/
structure FileSettings where
  requiredExtension : Option String
  performanceLogging : Bool
  deriving Repr, DecidableEq

/-- Settings for scanning. -/
structure ScanSettings where
  mode : ScanMode
  detailedMetrics : Bool
  trackOperators : Bool
  logDropped : Bool
  deriving Repr, DecidableEq

/-- Settings for logging. -/
structure LogSettings where
  structured : Bool
  console : Bool
  minLevel : Log.Level
  deriving Repr, DecidableEq

/-- All settings of a run. -/
structure Settings where
  files : FileSettings
  scan : ScanSettings
  logging : LogSettings
  deriving Repr, DecidableEq

namespace FileSettings

/-- Settings for files when nothing is chosen. -/
def builtIn : FileSettings := ⟨none, true⟩

end FileSettings

namespace ScanSettings

/-- Settings for scanning when nothing is chosen. -/
def builtIn : ScanSettings := ⟨.lenient, true, false, false⟩

end ScanSettings

namespace LogSettings

/-- Settings for logging when nothing is chosen. -/
def builtIn : LogSettings := ⟨false, false, .warning⟩

/-- Everything on the console, for interactive use. -/
def development : LogSettings := ⟨false, true, .debug⟩

/-- One line of data per event, for a collector of logs. -/
def production : LogSettings := ⟨true, true, .info⟩

end LogSettings

end Lexeme
