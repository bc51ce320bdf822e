import Lexeme.Log.Event

/-!
# Traced computations

Computations that can fail and that leave a trace of what is to be logged. A failed computation keeps
what was traced before.
-/

set_option autoImplicit false
set_option relaxedAutoImplicit false

namespace Lexeme.Log

/-- The outcome of a computation with its trace in order. -/
structure Traced (ε α : Type) where
  trace : List Entry
  outcome : Except ε α

namespace Traced

variable {ε α β : Type}

/-- A computation without a trace. -/
def pure (value : α) : Traced ε α := ⟨[], .ok value⟩

/-- A computation that goes on with what another one found. -/
def bind (first : Traced ε α) (next : α → Traced ε β) : Traced ε β :=
  match first.outcome with
  | .error error => ⟨first.trace, .error error⟩
  | .ok value =>
    let second := next value
    ⟨first.trace ++ second.trace, second.outcome⟩

instance : Monad (Traced ε) where
  pure := pure
  bind := bind

/-- Traces an entry. -/
def note (entry : Entry) : Traced ε Unit := ⟨[entry], .ok ()⟩

/-- An outcome about which nothing is traced. -/
def quiet (outcome : Except ε α) : Traced ε α := ⟨[], outcome⟩

/-- Fails, and traces why. -/
def fail (error : ε) (entry : Entry) : Traced ε α := ⟨[entry], .error error⟩

theorem outcome_bind (first : Traced ε α) (next : α → Traced ε β) :
    (first >>= next).outcome = first.outcome >>= fun value ↦ (next value).outcome := by
  change (Traced.bind first next).outcome = _
  rw [Traced.bind]
  cases first.outcome with
  | error error => rfl
  | ok value => rfl

theorem outcome_note (entry : Entry) : (note (ε := ε) entry).outcome = .ok () := rfl

theorem outcome_pure (value : α) : (Pure.pure value : Traced ε α).outcome = .ok value := rfl

theorem quiet_bind_ok (value : α) (next : α → Traced ε β) :
    (quiet (.ok value) >>= next) = next value := rfl

/-- Entries that are traced one after the other are the trace. -/
theorem forM_note (entries : List Entry) :
    entries.forM note = (⟨entries, .ok ()⟩ : Traced ε Unit) := by
  induction entries with
  | nil => rfl
  | cons entry entries ih =>
    change (note entry >>= fun _ ↦ entries.forM note) = _
    rw [ih]
    rfl

end Traced

end Lexeme.Log
