import Lexeme.Limits.Profile
import Lexeme.Log.Sink
import Lexeme.Log.Traced
import Lexeme.Settings.Environment
import Lexeme.Time.Duration

/-!
# The log of a run

The log of one run of the program. Until logging is started nothing is logged. While a source has a
name, every entry has it in its context. A computation that logs changes nothing but the session.
-/

set_option autoImplicit false
set_option relaxedAutoImplicit false

namespace Lexeme.Log

/-- The state of the log of a run. Time stands still in a session, and every timed step in it takes
as long as is given. -/
structure Session where
  environment : Environment
  now : Time.Instant
  elapsed : Time.Duration
  /-- The settings that were installed. -/
  settings : Option LogSettings := none
  service : Option Service := none
  /-- The name of the source at work. -/
  source : Option String := none
  /-- Lines printed so far, the latest first. -/
  printed : List String := []

/-- A computation that may log. -/
abbrev Logged := StateM Session

/-- Why logging could not be started. -/
inductive StartError where
  | limits (fault : Limits.StartFault)
  | alreadyInstalled
  deriving Repr, DecidableEq

namespace StartError

def message : StartError → String
  | limits fault => "Configuration validation failed: " ++ fault.message
  | alreadyInstalled => "Runtime preferences already initialized"

end StartError

namespace Session

/-- The settings for logging: those installed, or those of the environment. -/
def logSettings (session : Session) : LogSettings :=
  session.settings.getD (.ofEnvironment session.environment)

/-- The sinks that the settings ask for. -/
def configuredSink (session : Session) : Sink :=
  let settings := session.logSettings
  .ofSettings settings.structured settings.console settings.minLevel

/-- The service that the settings ask for. -/
def configuredService (session : Session) : Service :=
  ⟨session.configuredSink, session.logSettings.minLevel⟩

/-- Whether detailed events would be logged. -/
def debugEnabled (session : Session) : Bool :=
  (session.service.map (·.admits .debug)).getD false

/-- The lines printed so far, in order. -/
def lines (session : Session) : List String :=
  session.printed.reverse

/-- Prints a line. -/
def print (line : String) : Logged Unit :=
  modify fun session ↦ { session with printed := line :: session.printed }

/-- Prints what a sink prints. -/
def deliver (deliveries : List Delivery) : Logged Unit :=
  deliveries.forM fun
    | .printed line => print line
    | .remembered _ => pure ()

/-- Hands an event to the service, once there is one. -/
def handle (event : Event) : Logged Unit := do
  match (← get).service with
  | some service => deliver (service.deliveries event)
  | none => pure ()

/-- The context that the source at work adds to an entry. -/
def sourceContext (session : Session) : List (String × String) :=
  match session.source with
  | some source => [(Event.sourceKey, source)]
  | none => []

/-- Logs an entry, with the source at work in its context. -/
def log (entry : Entry) : Logged Unit := do
  let session ← get
  handle (.ofEntry session.now (entry.withContext session.sourceContext))

/-- Runs a traced computation and logs its trace. -/
def follow {ε α : Type} (traced : Traced ε α) : Logged (Except ε α) := do
  traced.trace.forM log
  pure traced.outcome

def setSource (name : String) : Logged Unit :=
  modify fun session ↦ { session with source := some name }

def clearSource : Logged Unit :=
  modify fun session ↦ { session with source := none }

/-- Runs a computation while a source has a name; afterwards the name is what it was before. -/
def withSource {α : Type} (name : String) (body : Logged α) : Logged α := do
  let before := (← get).source
  setSource name
  let result ← body
  modify fun session ↦ { session with source := before }
  pure result

/-- Installs settings for logging, which can be done once. -/
def install (settings : LogSettings) : Logged (Except StartError Unit) := do
  if (← get).settings.isSome then
    pure (.error .alreadyInstalled)
  else
    modify fun session ↦ { session with settings := some settings }
    pure (.ok ())

/-- Starts logging with settings that are installed by it. -/
def start (settings : LogSettings) : Logged (Except StartError Unit) := do
  match Limits.current.startFault? with
  | some fault => pure (.error (.limits fault))
  | none =>
    match ← install settings with
    | .error error => pure (.error error)
    | .ok () =>
      modify fun session ↦ { session with service := some session.configuredService }
      handle (.ofEntry (← get).now (.success .loggingStarted "Global logging system initialized"))
      pure (.ok ())

/-- Logs an error; without a service it is printed as it is. -/
def reportError (code : Code) (message : String) : Logged Unit := do
  if (← get).service.isSome then
    handle (.ofEntry (← get).now (.error code message))
  else
    print ("[ERROR] FALLBACK: [" ++ code.text ++ "] " ++ message)

/-- The limits and settings of logging in words. -/
def summary (session : Session) : String :=
  let settings := session.logSettings
  "Logging Configuration:\n=== Compile-time Limits ===\n- Log buffer size: " ++
    toString Limits.current.logBufferSize ++ "\n- Max message length: " ++
    toString Limits.current.maxMessageLength ++ "\n- Max context entries: " ++
    toString Limits.current.maxContextEntries ++
    "\n=== Runtime Preferences ===\n- Min log level: " ++ settings.minLevel.label ++
    "\n- Structured logging: " ++ Event.flagText settings.structured ++
    "\n- Console logging: " ++ Event.flagText settings.console

/-- The state of logging in words. -/
def diagnostics (session : Session) : String :=
  "=== Logging System Diagnostics ===\nInitialized: " ++
    Event.flagText session.service.isSome ++ "\n\n" ++ session.summary

end Session

end Lexeme.Log
