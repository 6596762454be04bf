import AlertEngine.State.Transition

/-! # Debouncing

A machine that moves to a state only after that state has been seen often enough in a row. Every
state has its own count. An input that is neither the current nor the awaited state starts a new
count; the current state ends the waiting. A state without a count is an error and changes
nothing.
-/

namespace AlertEngine

/-- How often in a row a state has to be seen. -/
structure StateSpec (σ : Type) where
  state : σ
  count : Nat
  count_pos : 0 < count
  deriving DecidableEq

namespace StateSpec

variable {σ : Type}

def new (state : σ) (count : Nat) : Except (ConfigError σ) (StateSpec σ) :=
  if h : 0 < count then .ok ⟨state, count, h⟩ else .error (.zeroCount state)

/-- A state that has to be seen once. -/
def once (state : σ) : StateSpec σ := ⟨state, 1, Nat.one_pos⟩

end StateSpec

/-- A state that is being waited for, and how often it still has to be seen. -/
structure Pending (σ : Type) where
  target : σ
  remaining : Nat
  deriving Repr, DecidableEq

structure Debounce (σ : Type) where
  specs : List (StateSpec σ)
  current : Option σ
  pending : Option (Pending σ)
  deriving DecidableEq

namespace Debounce

variable {σ : Type}

/-- A machine in the first of its states. -/
def new (specs : List (StateSpec σ)) : Except (ConfigError σ) (Debounce σ) :=
  match specs with
  | [] => .error .noStates
  | spec :: _ => .ok ⟨specs, some spec.state, none⟩

/-- The same machine in no known state. -/
def indeterminate (m : Debounce σ) : Debounce σ :=
  { m with current := none }

variable [DecidableEq σ]

/-- The count of the first spec of a state. -/
def count? (m : Debounce σ) (state : σ) : Option Nat :=
  (m.specs.find? fun spec => spec.state = state).map (·.count)

/-- How often `input` has to be seen from now on, this time included. -/
def needed? (m : Debounce σ) (input : σ) : Option Nat :=
  match m.pending with
  | some p => if p.target = input then some p.remaining else m.count? input
  | none => m.count? input

/-- Feed an input to a machine. An error comes with the machine as it is left behind. -/
def feed (m : Debounce σ) (input : σ) :
    Debounce σ × Except (ConfigError σ) (Option (Transition σ)) :=
  if m.current = some input then ({ m with pending := none }, .ok none)
  else
    match m.needed? input with
    | none => (m, .error (.unknownState input))
    | some needed =>
      if needed ≤ 1 then
        ({ m with current := some input, pending := none }, .ok (some ⟨m.current, input⟩))
      else ({ m with pending := some ⟨input, needed - 1⟩ }, .ok none)

/-- Feed an input, for a caller who has no use for the machine behind an error. -/
def step (m : Debounce σ) (input : σ) :
    Except (ConfigError σ) (Debounce σ × Option (Transition σ)) :=
  match m.feed input with
  | (next, .ok moved) => .ok (next, moved)
  | (_, .error e) => .error e

end Debounce

end AlertEngine
