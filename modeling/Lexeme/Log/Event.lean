import Lexeme.Limits
import Lexeme.Log.Code
import Lexeme.Log.Level
import Lexeme.Span
import Lexeme.Text.Dictionary
import Lexeme.Text.Utf8
import Lexeme.Time.Instant

/-!
# Log events

An event keeps no more of its message than the longest one allowed, and no more entries of context
than allowed: a key that is already there takes a new value, a new key is refused once the context
is full.
-/

set_option autoImplicit false
set_option relaxedAutoImplicit false

namespace Lexeme.Log

open Text (Dictionary)

/-- A message, cut between characters to the longest one allowed and marked as cut. -/
def shorten (message : String) : String :=
  if message.utf8ByteSize ≤ Limits.current.maxMessageLength then message
  else
    String.ofList (Text.frontUpTo message.toList Limits.current.maxMessageLength) ++ "..."

/-- Puts a value under a key of a context, unless the key is new and the context is full. -/
def addContext (limit : Nat) (context : Dictionary String) (key value : String) :
    Dictionary String :=
  if context.size < limit || context.contains key then context.insert key value else context

/-- What is to be logged: an event that has not happened yet. -/
structure Entry where
  level : Level
  code : Code
  message : String
  span : Option Span := none
  context : List (String × String) := []
  deriving Repr, DecidableEq

namespace Entry

def error (code : Code) (message : String) : Entry := { level := .error, code, message }

def warning (message : String) : Entry :=
  { level := .warning, code := .plainWarning, message }

def info (message : String) : Entry := { level := .info, code := .plainInfo, message }

def debug (message : String) : Entry := { level := .debug, code := .plainDebug, message }

/-- An entry that reports that something went well. -/
def success (code : Code) (message : String) : Entry := { level := .info, code, message }

/-- The entry with a place in a source. -/
def spanning (entry : Entry) (span : Span) : Entry := { entry with span := some span }

/-- The entry with context after what it has. -/
def withContext (entry : Entry) (context : List (String × String)) : Entry :=
  { entry with context := entry.context ++ context }

end Entry

/-- An event. -/
structure Event where
  time : Time.Instant
  level : Level
  code : Code
  message : String
  span : Option Span
  context : Dictionary String
  deriving DecidableEq

namespace Event

/-- An event without place and context. -/
def make (time : Time.Instant) (level : Level) (code : Code) (message : String) : Event :=
  ⟨time, level, code, shorten message, none, .empty⟩

/-- Adds one entry of context. -/
def addContext (event : Event) (key value : String) : Event :=
  { event with
    context := Log.addContext Limits.current.maxContextEntries event.context key value }

/-- Adds entries of context, one after the other. -/
def addContexts (event : Event) (context : List (String × String)) : Event :=
  context.foldl (fun event (key, value) ↦ event.addContext key value) event

/-- The event of an entry at a time. -/
def ofEntry (time : Time.Instant) (entry : Entry) : Event :=
  addContexts { make time entry.level entry.code entry.message with span := entry.span }
    entry.context

/-- Key of the context under which the name of a source stands. -/
def sourceKey : String := "source"

/-- Key of the context under which the path of a file stands. -/
def filePathKey : String := "file_path"

/-- Adds the path of a file to the context. -/
def addFilePath (event : Event) (path : String) : Event :=
  event.addContext filePathKey path

end Event

/-- A call that adds to the context of an event. -/
inductive Addition where
  | context (key value : String)
  | filePath (path : String)
  deriving Repr, DecidableEq

namespace Addition

/-- The entry of context that the call adds. -/
def fact : Addition → String × String
  | context key value => (key, value)
  | filePath path => (Event.filePathKey, path)

end Addition

namespace Event

/-- Answers one call. -/
def add (event : Event) : Addition → Event
  | .context key value => event.addContext key value
  | .filePath path => event.addFilePath path

/-- Answers calls, one after the other. -/
def addAll (event : Event) (additions : List Addition) : Event :=
  additions.foldl add event

end Event

end Lexeme.Log
