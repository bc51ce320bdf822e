import Lexeme.Json.Text
import Lexeme.Log.Event

/-!
# Texts of log events

Texts of log events: a line for people, the same with what is known about the code, and a line of
JSON with the members of every object in the order of their names.
-/

set_option autoImplicit false
set_option relaxedAutoImplicit false

namespace Lexeme.Log.Event

open Json (Value)

/-- The event in one line, as far as its message is on one line. -/
def line (event : Event) : String :=
  event.time.timeOfDay ++ " [" ++ event.level.label ++ "] " ++ event.code.text ++ " - " ++
    event.message ++
    match event.span with
    | some span => " at bytes " ++ span.render
    | none => ""

/-- A switch in words. -/
def flagText (value : Bool) : String :=
  if value then "true" else "false"

/-- An indented line under the line of an event. -/
def detail (label text : String) : String :=
  "\n  " ++ label ++ ": " ++ text

/-- The event with what is known about its code, over several lines. -/
def details (event : Event) : String :=
  event.line ++ detail "Category" event.code.category ++
    detail "Severity" event.code.severity.name ++
    (if event.level = .error then
      detail "Recoverable" (flagText event.code.isRecoverable) ++
        detail "Requires halt" (flagText event.code.requiresHalt)
    else "") ++
    (if event.code.description = Code.unknownDescription then ""
    else detail "Description" event.code.description) ++
    (if event.code.action = Code.unknownAction then ""
    else detail "Recommended action" event.code.action) ++
    if event.context.isEmpty then ""
    else
      "\n  Context:" ++
        String.join (event.context.entries.map fun (key, value) ↦
          "\n    " ++ key ++ ": " ++ value)

/-- What is known about the code of an error. -/
def errorInfo (code : Code) : Value :=
  .object [
    ("description", .string code.description),
    ("recommended_action", .string code.action),
    ("recoverable", .boolean code.isRecoverable),
    ("requires_halt", .boolean code.requiresHalt)]

/-- The event as a JSON object. -/
def toJson (event : Event) : Value :=
  .object <|
    [("category", .string event.code.category), ("code", .string event.code.text)] ++
    (if event.context.isEmpty then []
    else
      [("context", .object (event.context.entries.map fun (key, value) ↦
        (key, .string value)))]) ++
    (if event.level = .error then [("error_metadata", errorInfo event.code)] else []) ++
    [("level", .string event.level.label), ("message", .string event.message),
      ("severity", .string event.code.severity.name)] ++
    (match event.span with
      | some span => [("span", .object [("end", .ofNat span.stop), ("start", .ofNat span.start)])]
      | none => []) ++
    [("timestamp", .string event.time.timestamp)]

/-- The event as one line of JSON. -/
def jsonLine (event : Event) : String :=
  event.toJson.toLine

end Lexeme.Log.Event
