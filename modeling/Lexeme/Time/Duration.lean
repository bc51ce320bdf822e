import Lexeme.Decimal.Fixed

/-!
# Lengths of time

Lengths of time. A length is a whole number of nanoseconds; its seconds and milliseconds are binary
fractions, rounded at each step of their computation.
-/

set_option autoImplicit false
set_option relaxedAutoImplicit false

namespace Lexeme.Time

open Decimal (Magnitude)

/-- A length of time. -/
structure Duration where
  nanoseconds : Nat
  deriving Repr, DecidableEq, Inhabited

namespace Duration

def zero : Duration := ⟨0⟩

def nanosecondsPerSecond : Nat := 1000000000

/-- The length in seconds: whole seconds and the rest are converted separately and added. -/
def seconds (duration : Duration) : Magnitude :=
  let whole := Magnitude.ofNat (duration.nanoseconds / nanosecondsPerSecond)
  let rest := Magnitude.ofNat (duration.nanoseconds % nanosecondsPerSecond)
  whole.add (rest.div (.ofNat nanosecondsPerSecond))

/-- The length in milliseconds, a thousand times that in seconds. -/
def milliseconds (duration : Duration) : Magnitude :=
  duration.seconds.mul (.ofNat 1000)

/-- Number of things per unit of time, if any time passes. -/
def rate? (count : Nat) (time : Magnitude) : Option Magnitude :=
  if time.isZero then none else some ((Magnitude.ofNat count).div time)

end Duration

end Lexeme.Time
