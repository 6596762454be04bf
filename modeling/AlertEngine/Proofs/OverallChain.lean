import AlertEngine.Proofs.QuorumRun

/-! # Overall transitions

When a call changes the overall state, and what it then reports. Over a run the reported transitions
form a chain that leads from no state to the overall state.
-/

namespace AlertEngine

/-- Transitions that take a state to another one, each from where the one before it has led. -/
def Chain {σ : Type} : Option σ → List (Transition σ) → Option σ → Prop
  | start, [], last => start = last
  | start, t :: rest, last =>
    t.before = start ∧ start ≠ some t.after ∧ Chain (some t.after) rest last

theorem Chain.append {σ : Type} {start middle last : Option σ} {front back : List (Transition σ)}
    (h : Chain start front middle) (h' : Chain middle back last) :
    Chain start (front ++ back) last := by
  induction front generalizing start with
  | nil =>
      obtain rfl : start = middle := h
      exact h'
  | cons t rest ih => exact ⟨h.1, h.2.1, ih h.2.2⟩

theorem Chain.last {σ : Type} {start last : Option σ} {transitions : List (Transition σ)}
    (h : Chain start transitions last) :
    last = (transitions.getLast?.map Transition.after).or start := by
  induction transitions generalizing start with
  | nil => exact h.symm
  | cons t rest ih =>
      rw [ih h.2.2, List.getLast?_cons]
      cases rest.getLast? <;> rfl

namespace Quorum

variable {ζ σ : Type} [Ord ζ] [DecidableEq σ]

theorem countP_observations (q : Quorum ζ σ) (s : σ) :
    q.observations.values.countP (fun state => state = some s) = q.support s :=
  Keyed.countP_values_mapValues _ _ q.zones

variable [Std.TransOrd ζ] [Std.LawfulEqOrd ζ]

/-- The change of the overall state, if a call makes one. -/
def change? (q : Quorum ζ σ) (call : ζ × σ) : Option (OverallTransition ζ σ) :=
  (q.step call.1 call.2).2.toOption.join

/-- The changes of the overall state that a run makes, in order. -/
def changes (q : Quorum ζ σ) (calls : List (ζ × σ)) : List (OverallTransition ζ σ) :=
  Run.collect after change? q calls

theorem change?_eq_some_iff {q : Quorum ζ σ} {call : ζ × σ} {t : OverallTransition ζ σ} :
    q.change? call = some t ↔ (q.step call.1 call.2).2 = .ok (some t) := by
  unfold change?
  cases (q.step call.1 call.2).2 with
  | error e => simp [Except.toOption]
  | ok change => simp [Except.toOption]

/-- A call reports a change exactly when its zone moves, enough zones are then where it has moved
    to, and the overall state was elsewhere. -/
theorem step_change_iff (q : Quorum ζ σ) (zone : ζ) (input : σ) (t : OverallTransition ζ σ) :
    (q.step zone input).2 = .ok (some t) ↔
      ∃ moved, ((q.holder zone).step input).2 = .ok (some moved) ∧
        q.size ≤ (q.step zone input).1.support moved.after ∧
        q.overall.held ≠ some moved.after ∧
        t = ⟨⟨q.overall.held, moved.after⟩, (q.step zone input).1.observations⟩ := by
  obtain ⟨e, hs, h⟩ | ⟨next, hs, -, h⟩ | ⟨next, hs, -, -, h⟩ := q.step_cases zone input
  · simp [h, hs]
  · simp [h, hs]
  · obtain ⟨zones, -⟩ := follow_frame (q.put zone next) input
    simp [h, hs, follow_eq_some_iff, support, observations, zones]

theorem held_step (q : Quorum ζ σ) (zone : ζ) (input : σ) :
    (q.step zone input).1.overall.held =
      ((q.change? (zone, input)).map (·.overall.after)).or q.overall.held := by
  obtain ⟨e, -, h⟩ | ⟨next, -, -, h⟩ | ⟨next, -, -, -, h⟩ := q.step_cases zone input
  · simp [change?, h, Except.toOption]
  · simp [change?, h, Except.toOption]
  · simpa [change?, h, Except.toOption] using held_follow_eq (q.put zone next) input

theorem changes_concat (q : Quorum ζ σ) (calls : List (ζ × σ)) (call : ζ × σ) :
    q.changes (calls ++ [call]) = q.changes calls ++ ((q.run calls).change? call).toList :=
  Run.collect_concat after change? q calls call

theorem chain_change? (q : Quorum ζ σ) (call : ζ × σ) :
    Chain q.overall.held ((q.change? call).toList.map (·.overall)) (q.after call).overall.held := by
  rw [after, held_step]
  cases reported : q.change? call with
  | none => rfl
  | some t =>
      obtain ⟨moved, -, -, elsewhere, rfl⟩ :=
        (q.step_change_iff call.1 call.2 t).1 (change?_eq_some_iff.1 reported)
      exact ⟨rfl, elsewhere, rfl⟩

theorem eq_of_change? {q : Quorum ζ σ} {call : ζ × σ} {t : OverallTransition ζ σ}
    (changed : q.change? call = some t) :
    t = ⟨⟨q.overall.held, call.2⟩, (q.after call).observations⟩ := by
  obtain ⟨moved, move, -, -, rfl⟩ :=
    (q.step_change_iff call.1 call.2 t).1 (change?_eq_some_iff.1 changed)
  obtain ⟨e, h⟩ | ⟨next, h, -⟩ | ⟨next, h, -⟩ := (q.holder call.1).step_cases call.2
  · simp [h] at move
  · simp [h] at move
  · simp only [h, Except.ok.injEq, Option.some_inj] at move
    rw [← move]
    rfl

theorem change?_isSome_iff {q : Quorum ζ σ} {call : ζ × σ} :
    (q.change? call).isSome ↔ (q.after call).overall.held ≠ q.overall.held := by
  have chain := q.chain_change? call
  rw [after, q.held_step]
  cases changed : q.change? call with
  | none => simp
  | some t =>
      rw [changed] at chain
      have elsewhere : q.overall.held ≠ some t.overall.after := chain.2.1
      simp [elsewhere.symm]

theorem chain_changes (q : Quorum ζ σ) (calls : List (ζ × σ)) :
    Chain q.overall.held ((q.changes calls).map (·.overall)) (q.run calls).overall.held := by
  induction calls using List.reverseRecOn with
  | nil => rfl
  | append_singleton calls call ih =>
      rw [changes_concat, List.map_append, run_concat]
      exact ih.append (chain_change? _ call)

variable [DecidableEq ζ]

/-- The law of overall transitions, at every call of every run of a new quorum and of the run as a
    whole. -/
theorem overall_transitions {size : Nat} {prototype : Holder σ} {q : Quorum ζ σ}
    (new : Quorum.new size prototype = .ok q) (calls : List (ζ × σ)) :
    let now := q.run calls
    (∀ zone input,
      let next := (now.step zone input).1
      let outcome := (now.step zone input).2
      (∀ t, outcome = .ok (some t) ↔
        ∃ moved, ((now.holder zone).step input).2 = .ok (some moved) ∧
          size ≤ next.support moved.after ∧ now.overall.held ≠ some moved.after ∧
          t = ⟨⟨now.overall.held, moved.after⟩, next.observations⟩) ∧
      (∀ t, outcome = .ok (some t) →
        next.overall.held = some t.overall.after ∧
        size ≤ t.observations.values.countP (fun state => state = some t.overall.after) ∧
        ∀ z, t.observations.get? z =
          if z ∈ zone :: calls.map Prod.fst then some (next.zoneState z) else none) ∧
      ((∀ t, outcome ≠ .ok (some t)) → next.overall.held = now.overall.held)) ∧
    Chain none ((q.changes calls).map (·.overall)) now.overall.held := by
  obtain ⟨fresh, rfl, rfl⟩ := fresh_of_new new
  intro now
  have same : now.size = q.size := (q.run_frame calls).1
  refine ⟨fun zone input => ⟨?_, ?_, ?_⟩, ?_⟩
  · intro t
    rw [← same]
    exact now.step_change_iff zone input t
  · intro t reported
    have held := now.held_step zone input
    rw [change?_eq_some_iff.2 reported] at held
    refine ⟨held, ?_, fun z => ?_⟩
    · obtain ⟨moved, -, enough, -, rfl⟩ := (now.step_change_iff zone input t).1 reported
      rw [countP_observations, ← same]
      exact enough
    · obtain ⟨moved, -, -, -, rfl⟩ := (now.step_change_iff zone input t).1 reported
      have observed := fresh.get?_observations_run (calls ++ [(zone, input)]) z
      have seen : z ∈ (calls ++ [(zone, input)]).map Prod.fst ↔ z ∈ zone :: calls.map Prod.fst := by
        simp [or_comm]
      simp only [run_concat, seen] at observed
      exact observed
  · intro quiet
    have unreported : now.change? (zone, input) = none :=
      Option.eq_none_iff_forall_ne_some.2 fun t reported =>
        quiet t (change?_eq_some_iff.1 reported)
    rw [now.held_step, unreported, Option.map_none, Option.none_or]
  · have chain := q.chain_changes calls
    rwa [fresh.unheld] at chain

/-- The second of two zones takes the overall state along. -/
theorem overall_transitions_second_zone :
    ∃ q : Quorum Nat Nat, Quorum.latching 2 = .ok q ∧
      let next := ((q.run [(1, 5)]).step 2 5).1
      ((q.run [(1, 5)]).step 2 5).2 = .ok (some ⟨⟨none, 5⟩, next.observations⟩) ∧
      next.overall.held = some 5 := by
  have new : Quorum.new 2 (.latch .empty) =
      .ok (⟨2, Nat.two_pos, .latch .empty, .empty, .empty⟩ : Quorum Nat Nat) := rfl
  obtain ⟨reported, follows, -⟩ := (overall_transitions new [(1, 5)]).1 2 5
  have change := (reported _).2 ⟨⟨none, 5⟩, rfl, by decide, by decide, rfl⟩
  exact ⟨_, new, change, (follows _ change).1⟩

end Quorum

end AlertEngine
