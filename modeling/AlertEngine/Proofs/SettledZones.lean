import AlertEngine.Proofs.QuorumRun
import Mathlib.Data.List.Dedup
import Mathlib.Data.List.Perm.Basic

/-! # Settled zones

The zones of a quorum that debounces: each is in the state that its own inputs settle on, and none
of them refuses a state that is declared.
-/

namespace AlertEngine

open History

namespace Debounce

variable {σ : Type} [DecidableEq σ]

theorem Fresh.history_eq {m : Debounce σ} (fresh : Fresh m) (all : ∀ s, m.count? s ≠ none)
    (inputs : List σ) : m.history inputs = inputs := by
  rw [fresh.history_eq_filter, List.filter_eq_self]
  intro input _
  exact Option.ne_none_iff_isSome.1 (all input)

end Debounce

namespace Quorum

variable {ζ σ : Type} [Ord ζ] [Std.TransOrd ζ] [Std.LawfulEqOrd ζ] [DecidableEq σ] [DecidableEq ζ]

/-- A new quorum of machines that start in no state and know every state. -/
structure Debouncing (q : Quorum ζ σ) (m : Debounce σ) : Prop where
  fresh : Fresh q
  machine : q.prototype = .debounce m
  start : m.Fresh
  unknown : m.current = none
  all : ∀ s, m.count? s ≠ none

variable {q : Quorum ζ σ} {m : Debounce σ}

theorem Debouncing.holder_run (h : Debouncing q m) (calls : List (ζ × σ)) (zone : ζ) :
    (q.run calls).holder zone = .debounce (m.run (inputsOf zone calls)) := by
  rw [Quorum.holder_run, h.fresh.holder, h.machine, Holder.run_debounce]

theorem Debouncing.state_run (h : Debouncing q m) (calls : List (ζ × σ)) (zone : ζ) :
    ((q.run calls).holder zone).state = settled m.count? (inputsOf zone calls) := by
  have follows := h.start.follows_run (inputsOf zone calls)
  rw [h.holder_run, Holder.state, follows.current, h.start.history_eq h.all, h.unknown,
    Option.or_none]

/-- Before and after its first call, a zone is in the state that its inputs settle on. -/
theorem Debouncing.zoneState_run (h : Debouncing q m) (calls : List (ζ × σ)) (zone : ζ) :
    (q.run calls).zoneState zone = settled m.count? (inputsOf zone calls) := by
  rw [← h.state_run, zoneState, Quorum.holder]
  cases (q.run calls).zones.get? zone with
  | none =>
      have start : (q.run calls).prototype.state = none := by
        rw [(q.run_frame calls).2, h.machine]
        exact h.unknown
      exact start.symm
  | some holder => rfl

theorem Debouncing.step_ok (h : Debouncing q m) (calls : List (ζ × σ)) (zone : ζ) (input : σ) :
    ∃ change, ((q.run calls).step zone input).2 = .ok change := by
  obtain ⟨e, refused, -⟩ | ⟨next, -, -, stepped⟩ | ⟨next, -, -, -, stepped⟩ :=
    (q.run calls).step_cases zone input
  · rw [h.holder_run] at refused
    have refused := congrArg Prod.snd refused
    exact absurd ((h.start.follows_run _).feed_error_iff h.start |>.1 refused).2 (h.all input)
  · exact ⟨_, by rw [stepped]⟩
  · exact ⟨_, by rw [stepped]⟩

/-- The zones that have called, each once. -/
def zonesOf (calls : List (ζ × σ)) : List ζ :=
  (calls.map Prod.fst).dedup

theorem Fresh.keys_run (fresh : Fresh q) (calls : List (ζ × σ)) :
    (q.run calls).zones.keys.Perm (zonesOf calls) := by
  refine (List.perm_ext_iff_of_nodup (Keyed.nodup_keys _) (List.nodup_dedup _)).2 fun zone => ?_
  rw [Keyed.mem_keys_iff, fresh.get?_zones_run, List.mem_dedup]
  split <;> simp [*]

theorem Debouncing.support_run (h : Debouncing q m) (calls : List (ζ × σ)) (s : σ) :
    (q.run calls).support s =
      (zonesOf calls).countP fun zone => settled m.count? (inputsOf zone calls) = some s := by
  rw [support, Keyed.countP_values, (h.fresh.keys_run calls).countP_eq]
  refine List.countP_congr fun zone _ => ?_
  rw [← h.zoneState_run, zoneState]
  cases (q.run calls).zones.get? zone <;> simp

end Quorum

end AlertEngine
