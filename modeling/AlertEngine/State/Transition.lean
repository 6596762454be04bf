/-! # Transitions

A change of state, and what can be wrong with states. The simplest machine that makes transitions is
a latch: it holds the latest state it was given and reports a transition only when that state is a
new one.
-/

namespace AlertEngine

/-- A change of state. Without `before` the state was not known. -/
structure Transition (σ : Type) where
  before : Option σ
  after : σ
  deriving Repr, DecidableEq

/-- What is wrong with the set-up of a state machine, or with a state it is given. -/
inductive ConfigError (σ : Type) where
  | noStates
  | zeroCount (state : σ)
  | zeroQuorum
  | unknownState (state : σ)
  deriving Repr, DecidableEq

/-- The text of an error, given the names of states. -/
def ConfigError.message {σ : Type} (name : σ → String) : ConfigError σ → String
  | .noStates => "State specs must be non-empty"
  | .zeroCount state =>
    "Consecutive count for state " ++ name state ++ " must be greater than 0, got 0"
  | .zeroQuorum => "Quorum must be greater than 0"
  | .unknownState state => "Unknown state: " ++ name state

structure Latch (σ : Type) where
  held : Option σ
  deriving Repr, DecidableEq

namespace Latch

variable {σ : Type}

def empty : Latch σ := ⟨none⟩

variable [DecidableEq σ]

def step (latch : Latch σ) (input : σ) : Latch σ × Option (Transition σ) :=
  if latch.held = some input then (latch, none)
  else (⟨some input⟩, some ⟨latch.held, input⟩)

@[simp] theorem held_step (latch : Latch σ) (input : σ) :
    (latch.step input).1.held = some input := by
  unfold step
  split
  · assumption
  · rfl

end Latch

end AlertEngine
