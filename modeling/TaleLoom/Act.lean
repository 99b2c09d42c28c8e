import TaleLoom.Fault
/-!
Steps that change a state and may fail. What a step has changed before it fails stays changed, so
the state after a failure is part of the answer. `Act.within` runs a step on a part of a larger
state.
-/

namespace TaleLoom

/-- A step on a state `σ` that gives an `α` or fails. -/
abbrev Act (σ α : Type) := EStateM Fault σ α

namespace Act

variable {σ τ α : Type}

/-- A result that is there already, as a step. -/
def ofExcept (result : Except Fault α) : Act σ α := fun s =>
  match result with
  | .ok a => .ok a s
  | .error fault => .error fault s

instance : MonadLift (Except Fault) (Act σ) := ⟨ofExcept⟩

/-- A step on a part of the state. -/
def within (part : σ → τ) (update : τ → σ → σ) (act : Act τ α) : Act σ α := fun s =>
  match act (part s) with
  | .ok a t => .ok a (update t s)
  | .error fault t => .error fault (update t s)

/-- A step whose failure is a result. -/
def attempt (act : Act σ α) : Act σ (Except Fault α) := fun s =>
  match act s with
  | .ok a s => .ok (.ok a) s
  | .error fault s => .ok (.error fault) s

end Act

end TaleLoom
