import Lexeme.Limits
import Lexeme.Toml.Reader

/-!
# Profiles of a build

Limits of a build profile: read from the profile's TOML text, checked, and written as the constants
that a build takes in. What a build accepts is checked once more when the program starts.
-/

set_option autoImplicit false
set_option relaxedAutoImplicit false

namespace Lexeme.Limits

open Toml (Value)

/-- Counters under the given names in a section of a profile. -/
def counters? (profile : Option Value) (names : List String) : Option (List Nat) := do
  (← (← profile).fields? names).mapM (· >>= Value.counter?)

/-- The limits in a profile's table. -/
def ofTable? (table : Value) : Option Limits := do
  let [files, scan, logging] ← table.fields? ["file_processing", "lexical", "logging"] | none
  let [maxFileSize, largeFileThreshold] ←
    counters? files ["max_file_size", "large_file_threshold"] | none
  let [maxDiagnostics, maxFragmentLength, maxTrackedOperators] ← counters? scan
    ["max_diagnostics", "max_diagnostic_fragment_length", "max_tracked_operators"] | none
  let [logBufferSize, maxMessageLength, maxContextEntries] ← counters? logging
    ["log_buffer_size", "max_log_message_length", "max_context_entries"] | none
  some ⟨maxFileSize, largeFileThreshold, maxDiagnostics, maxFragmentLength, maxTrackedOperators,
    logBufferSize, maxMessageLength, maxContextEntries⟩

/-- The limits in a profile's text. -/
def ofToml? (text : String) : Option Limits := do
  ofTable? (← Value.ofText? text)

/-- Why a build refuses limits. -/
inductive BuildFault where
  | fileSize
  | threshold
  | noDiagnostics
  | noFragment
  | logBuffer
  | productionFileSize
  deriving Repr, DecidableEq

def BuildFault.message : BuildFault → String
  | fileSize => "max_file_size exceeds absolute maximum"
  | threshold => "large_file_threshold must not exceed max_file_size"
  | noDiagnostics => "max_diagnostics must be at least 1"
  | noFragment => "max_diagnostic_fragment_length must be at least 1"
  | logBuffer => "log_buffer_size too small (min: 100)"
  | productionFileSize => "PRODUCTION: max_file_size too high for production"

/-- The greatest file size that any profile may allow. -/
def greatestFileSize : Nat := 1000000000

/-- The greatest file size that the production profile may allow. -/
def greatestProductionFileSize : Nat := 50000000

/-- The smallest number of events a log must be able to keep. -/
def smallestLogBuffer : Nat := 100

/-- The first fault that a build finds in limits. -/
def buildFault? (profile : String) (limits : Limits) : Option BuildFault :=
  if greatestFileSize < limits.maxFileSize then some .fileSize
  else if limits.maxFileSize < limits.largeFileThreshold then some .threshold
  else if limits.maxDiagnostics = 0 then some .noDiagnostics
  else if limits.maxFragmentLength = 0 then some .noFragment
  else if limits.logBufferSize < smallestLogBuffer then some .logBuffer
  else if profile = "production" ∧ greatestProductionFileSize < limits.maxFileSize then
    some .productionFileSize
  else none

/-- Why the program refuses to start with limits. -/
inductive StartFault where
  | largeLogBuffer (size : Nat)
  | smallLogBuffer (size : Nat)
  | noMessage
  deriving Repr, DecidableEq

def StartFault.message : StartFault → String
  | largeLogBuffer size => "Log buffer size too large: " ++ toString size
  | smallLogBuffer size => "Log buffer size too small: " ++ toString size
  | noMessage => "Max log message length must be positive"

/-- The greatest number of events a log may keep. -/
def greatestLogBuffer : Nat := 100000

/-- The first fault found in limits when the program starts. -/
def startFault? (limits : Limits) : Option StartFault :=
  if greatestLogBuffer < limits.logBufferSize then some (.largeLogBuffer limits.logBufferSize)
  else if limits.logBufferSize < smallestLogBuffer then
    some (.smallLogBuffer limits.logBufferSize)
  else if limits.maxMessageLength = 0 then some .noMessage
  else none

/-- A line of generated constants. -/
def constantLine (name type : String) (value : Nat) : String :=
  "        pub const " ++ name ++ ": " ++ type ++ " = " ++ toString value ++ ";\n"

/-- A section of generated constants. -/
def constantSection (name : String) (lines : List String) : String :=
  "    pub mod " ++ name ++ " \x7b\n" ++ String.join lines ++ "    \x7d\n"

/-- The text of constants that a build takes in. -/
def constants (profile : String) (limits : Limits) : String :=
  "\n// Generated compile-time constants from TOML configuration\n// Profile: " ++ profile ++
    "\n// DO NOT EDIT - Generated by build.rs\n\npub mod compile_time \x7b\n" ++
    constantSection "file_processing" [
      constantLine "MAX_FILE_SIZE" "u64" limits.maxFileSize,
      constantLine "LARGE_FILE_THRESHOLD" "u64" limits.largeFileThreshold] ++ "\n" ++
    constantSection "lexical" [
      constantLine "MAX_DIAGNOSTICS" "usize" limits.maxDiagnostics,
      constantLine "MAX_DIAGNOSTIC_FRAGMENT_LENGTH" "usize" limits.maxFragmentLength,
      constantLine "MAX_TRACKED_OPERATORS" "usize" limits.maxTrackedOperators] ++ "\n" ++
    constantSection "logging" [
      constantLine "LOG_BUFFER_SIZE" "usize" limits.logBufferSize,
      constantLine "MAX_LOG_MESSAGE_LENGTH" "usize" limits.maxMessageLength,
      constantLine "MAX_CONTEXT_ENTRIES" "usize" limits.maxContextEntries] ++
    "\x7d\n"

/-- The constants of a profile, unless the build refuses its limits. -/
def build (profile : String) (limits : Limits) : Except BuildFault String :=
  match limits.buildFault? profile with
  | some fault => .error fault
  | none => .ok (limits.constants profile)

end Lexeme.Limits
