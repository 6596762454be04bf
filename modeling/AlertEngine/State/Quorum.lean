import AlertEngine.Keyed
import AlertEngine.State.Debounce
import AlertEngine.State.Transition

/-! # Quorums

Every zone has a holder of its own, made when the zone is first heard of. When a zone moves to a
state that enough zones are in, the overall state follows. Zones are never forgotten, and only a
zone that moves makes the others count.
-/

namespace AlertEngine

/-- What holds the state of one zone. -/
inductive Holder (σ : Type) where
  | debounce (machine : Debounce σ)
  | latch (latch : Latch σ)
  deriving DecidableEq

namespace Holder

variable {σ : Type}

def state : Holder σ → Option σ
  | .debounce machine => machine.current
  | .latch l => l.held

variable [DecidableEq σ]

def step (holder : Holder σ) (input : σ) :
    Holder σ × Except (ConfigError σ) (Option (Transition σ)) :=
  match holder with
  | .debounce machine =>
    let (machine, outcome) := machine.feed input
    (.debounce machine, outcome)
  | .latch l =>
    let (l, moved) := l.step input
    (.latch l, .ok moved)

end Holder

/-- A change of the overall state with the states of all zones at that moment. -/
structure OverallTransition (ζ σ : Type) [Ord ζ] where
  overall : Transition σ
  observations : Keyed ζ (Option σ)

instance {ζ σ : Type} [Ord ζ] [DecidableEq ζ] [DecidableEq σ] :
    DecidableEq (OverallTransition ζ σ) := fun x y =>
  decidable_of_iff (x.overall = y.overall ∧ x.observations = y.observations) <| by
    cases x
    cases y
    simp

structure Quorum (ζ σ : Type) [Ord ζ] where
  /-- How many zones have to agree. -/
  size : Nat
  size_pos : 0 < size
  /-- The holder of a zone that is not known yet. -/
  prototype : Holder σ
  zones : Keyed ζ (Holder σ)
  overall : Latch σ

namespace Quorum

variable {ζ σ : Type} [Ord ζ]

def new (size : Nat) (prototype : Holder σ) : Except (ConfigError σ) (Quorum ζ σ) :=
  if h : 0 < size then .ok ⟨size, h, prototype, .empty, .empty⟩ else .error .zeroQuorum

/-- Zones that are latches. -/
def latching (size : Nat) : Except (ConfigError σ) (Quorum ζ σ) :=
  new size (.latch .empty)

/-- The states of all zones. -/
def observations (q : Quorum ζ σ) : Keyed ζ (Option σ) :=
  q.zones.mapValues Holder.state

def zoneState (q : Quorum ζ σ) (zone : ζ) : Option σ :=
  (q.zones.get? zone).bind Holder.state

/-- The holder that answers for a zone. -/
def holder (q : Quorum ζ σ) (zone : ζ) : Holder σ :=
  (q.zones.get? zone).getD q.prototype

variable [DecidableEq σ]

/-- How many zones are in a state. -/
def support (q : Quorum ζ σ) (state : σ) : Nat :=
  q.zones.values.countP fun holder => holder.state = some state

/-- Let the overall state follow a zone that has moved to `state`, if enough zones agree. -/
def follow (q : Quorum ζ σ) (state : σ) : Quorum ζ σ × Option (OverallTransition ζ σ) :=
  if q.support state < q.size then (q, none)
  else
    match q.overall.step state with
    | (overall, none) => ({ q with overall := overall }, none)
    | (overall, some moved) =>
      ({ q with overall := overall }, some ⟨moved, q.observations⟩)

variable [Std.TransOrd ζ] [Std.LawfulEqOrd ζ]

/-- Give a zone a state. A zone that is not known becomes known even if its holder refuses the
    state. -/
def step (q : Quorum ζ σ) (zone : ζ) (input : σ) :
    Quorum ζ σ × Except (ConfigError σ) (Option (OverallTransition ζ σ)) :=
  let (holder, outcome) := (q.holder zone).step input
  let q : Quorum ζ σ := { q with zones := q.zones.insert zone holder }
  match outcome with
  | .error e => (q, .error e)
  | .ok none => (q, .ok none)
  | .ok (some moved) =>
    let (q, change) := q.follow moved.after
    (q, .ok change)

end Quorum

end AlertEngine
