/-!
# Codes of log events

Codes of log events, with what is registered about each. A code that is not registered counts as
recoverable trouble of medium severity.
-/

set_option autoImplicit false
set_option relaxedAutoImplicit false

namespace Lexeme.Log

/-- A code that events of one kind share. -/
structure Code where
  text : String
  deriving Repr, DecidableEq, Inhabited

/-- How bad the trouble behind a code is. -/
inductive Severity where
  | critical
  | high
  | medium
  | low
  deriving Repr, DecidableEq

/-- Name of a severity. -/
def Severity.name : Severity → String
  | critical => "Critical"
  | high => "High"
  | medium => "Medium"
  | low => "Low"

/-- What is registered about a code. -/
structure CodeInfo where
  code : Code
  category : String
  severity : Severity
  recoverable : Bool
  requiresHalt : Bool
  description : String
  action : String
  deriving Repr, DecidableEq

namespace Code

def internalError : Code := ⟨"ERR001"⟩
def configurationError : Code := ⟨"ERR004"⟩

def fileNotFound : Code := ⟨"E005"⟩
def invalidExtension : Code := ⟨"E006"⟩
def fileTooLarge : Code := ⟨"E007"⟩
def permissionDenied : Code := ⟨"E009"⟩
def invalidEncoding : Code := ⟨"E010"⟩
def ioError : Code := ⟨"E011"⟩
def invalidPath : Code := ⟨"E012"⟩

def unrecognizedCharacter : Code := ⟨"E020"⟩
def unterminatedString : Code := ⟨"E021"⟩
def diagnosticLimitReached : Code := ⟨"W020"⟩

def serializationError : Code := ⟨"E060"⟩

def loggingStarted : Code := ⟨"I004"⟩
def fileLoaded : Code := ⟨"I006"⟩
def scanCompleted : Code := ⟨"I020"⟩
def strictScanPassed : Code := ⟨"I021"⟩
def pipelineCompleted : Code := ⟨"I030"⟩

/-- Codes of events that were given none, by level. -/
def plainWarning : Code := ⟨"W000"⟩
def plainInfo : Code := ⟨"I000"⟩
def plainDebug : Code := ⟨"D000"⟩

/-- Everything registered, one entry per code. -/
def registry : List CodeInfo := [
  ⟨internalError, "System", .critical, false, true,
    "Critical internal system error", "File a bug report with the input that triggered it"⟩,
  ⟨configurationError, "System", .high, false, true,
    "Runtime configuration could not be loaded",
    "Check the configuration file path and TOML syntax"⟩,
  ⟨fileNotFound, "FileProcessing", .medium, false, true,
    "File not found at specified path", "Check file path and ensure file exists"⟩,
  ⟨invalidExtension, "FileProcessing", .low, true, false,
    "File does not have the required extension",
    "Rename the file or relax the required extension setting"⟩,
  ⟨fileTooLarge, "FileProcessing", .medium, false, true,
    "File exceeds the compiled maximum size",
    "Split the input or rebuild with a larger max_file_size"⟩,
  ⟨permissionDenied, "FileProcessing", .medium, false, true,
    "Insufficient permissions to read file", "Check file permissions"⟩,
  ⟨invalidEncoding, "FileProcessing", .medium, false, true,
    "File content is not valid UTF-8", "Re-encode the file as UTF-8"⟩,
  ⟨ioError, "FileProcessing", .high, false, true,
    "I/O error while reading file", "Check disk health and retry"⟩,
  ⟨invalidPath, "FileProcessing", .medium, false, true,
    "Path is empty or is not a regular file", "Provide the path of a regular file"⟩,
  ⟨unrecognizedCharacter, "Lexical", .low, true, false,
    "Character is not part of any token class",
    "Remove the character or scan in lenient mode"⟩,
  ⟨unterminatedString, "Lexical", .medium, true, false,
    "String literal is missing its closing quote", "Add the closing double quote"⟩,
  ⟨diagnosticLimitReached, "Lexical", .low, true, false,
    "Further diagnostics were counted but not stored", "Fix the reported problems and rescan"⟩,
  ⟨serializationError, "Output", .high, false, true,
    "Scan result could not be serialized", "Report the input that triggered the failure"⟩,
  ⟨loggingStarted, "Success", .low, true, false,
    "Logging system initialized", "No action required"⟩,
  ⟨fileLoaded, "Success", .low, true, false,
    "File loaded successfully", "Continue to lexical analysis"⟩,
  ⟨scanCompleted, "Success", .low, true, false,
    "Tokenization completed", "No action required"⟩,
  ⟨strictScanPassed, "Success", .low, true, false,
    "Strict scan found no diagnostics", "No action required"⟩,
  ⟨pipelineCompleted, "Success", .low, true, false,
    "Pipeline finished for one input", "No action required"⟩]

/-- What is registered about a code, if anything is. -/
def info? (code : Code) : Option CodeInfo :=
  registry.find? (·.code == code)

def severity (code : Code) : Severity :=
  (code.info?.map (·.severity)).getD .medium

def isRecoverable (code : Code) : Bool :=
  (code.info?.map (·.recoverable)).getD true

def requiresHalt (code : Code) : Bool :=
  (code.info?.map (·.requiresHalt)).getD false

/-- Description of a code that is not registered. -/
def unknownDescription : String := "Unknown error"

/-- Recommended action for a code that is not registered. -/
def unknownAction : String := "No specific action available"

def description (code : Code) : String :=
  (code.info?.map (·.description)).getD unknownDescription

def action (code : Code) : String :=
  (code.info?.map (·.action)).getD unknownAction

def category (code : Code) : String :=
  (code.info?.map (·.category)).getD "Unknown"

end Code

end Lexeme.Log
