/-!
# Limits of a build

Limits fixed when the program is built: how large a file may be, how much of a scan's trouble is
kept, and how much a log event may hold.
-/

set_option autoImplicit false
set_option relaxedAutoImplicit false

namespace Lexeme

/-- The limits of one build. Sizes of files and messages are in bytes. -/
structure Limits where
  maxFileSize : Nat
  largeFileThreshold : Nat
  maxDiagnostics : Nat
  maxFragmentLength : Nat
  maxTrackedOperators : Nat
  logBufferSize : Nat
  maxMessageLength : Nat
  maxContextEntries : Nat
  deriving Repr, DecidableEq

namespace Limits

/-- The limits of a development build. -/
def development : Limits where
  maxFileSize := 10485760
  largeFileThreshold := 1048576
  maxDiagnostics := 1000
  maxFragmentLength := 80
  maxTrackedOperators := 32
  logBufferSize := 10000
  maxMessageLength := 4096
  maxContextEntries := 32

/-- The limits in force. -/
def current : Limits := development

/-- Name of the build profile in force. -/
def profile : String := "development"

/-- Directory of the profile files. -/
def profileDirectory : String := "config"

/-- Where the limits in force come from. -/
def provenance : String :=
  "Generated from " ++ profileDirectory ++ "/" ++ profile ++ ".toml"

end Limits

end Lexeme
