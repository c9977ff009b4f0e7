import DisplayServer.Log

/-! # Outcomes

Every operation of the server is a function from a state to an outcome: an answer, a state and a
log.
-/

namespace DisplayServer

/-- What an operation leaves behind: its answer, the state after it, and what it logged, oldest
first. -/
structure Outcome (σ α : Type) where
  answer : α
  state : σ
  log : List LogMessage := []
deriving Repr

namespace Outcome

variable {σ α ε : Type}

/-- Fails and leaves the state as it was. -/
def refuse (state : σ) (cause : ε) : Outcome σ (Except ε α) :=
  { answer := .error cause, state }

/-- Takes over the answer and the state of an attempt that worked, with what it logs then; an
attempt that failed leaves the state as it was. -/
def ofAttempt (state : σ) (log : List LogMessage) :
    Except ε (α × σ) → Outcome σ (Except ε α)
  | .ok (answer, state) => { answer := .ok answer, state, log }
  | .error cause => refuse state cause

def map {β : Type} (change : α → β) (outcome : Outcome σ α) : Outcome σ β :=
  { outcome with answer := change outcome.answer }

end Outcome

end DisplayServer
