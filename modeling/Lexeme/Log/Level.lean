/-!
# Levels of log events

Levels of log events, from the gravest to the most detailed.
-/

set_option autoImplicit false
set_option relaxedAutoImplicit false

namespace Lexeme.Log

/-- How grave an event is. -/
inductive Level where
  | error
  | warning
  | info
  | debug
  deriving Repr, DecidableEq, Inhabited

namespace Level

/-- Position of a level; graver levels have smaller ranks. -/
def rank : Level → Nat
  | error => 0
  | warning => 1
  | info => 2
  | debug => 3

/-- Whether a threshold lets events of a level pass. -/
def admits (threshold level : Level) : Bool :=
  level.rank ≤ threshold.rank

theorem admits_iff {threshold level : Level} :
    threshold.admits level = true ↔ level.rank ≤ threshold.rank :=
  decide_eq_true_iff

/-- Name of a level in log lines. -/
def label : Level → String
  | error => "ERROR"
  | warning => "WARN"
  | info => "INFO"
  | debug => "DEBUG"

/-- Name of a level in settings. -/
def name : Level → String
  | error => "error"
  | warning => "warning"
  | info => "info"
  | debug => "debug"

/-- The level with a name of settings. -/
def ofName? : String → Option Level
  | "error" => some error
  | "warning" => some warning
  | "info" => some info
  | "debug" => some debug
  | _ => none

end Level

end Lexeme.Log
