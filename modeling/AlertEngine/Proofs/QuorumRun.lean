import AlertEngine.Proofs.Debouncing
import AlertEngine.State.Quorum

/-! # Runs of a quorum

All that a call does to a quorum is said once, by what the holder of the zone makes of the input.
Every zone is a machine of its own: over a run its holder sees the inputs of that zone and nothing
else.
-/

namespace AlertEngine

namespace Holder

variable {σ : Type} [DecidableEq σ]

def after (holder : Holder σ) (input : σ) : Holder σ :=
  (holder.step input).1

def run (holder : Holder σ) (inputs : List σ) : Holder σ :=
  inputs.foldl after holder

/-- A holder refuses an input as a whole, keeps its state, or moves to the input. -/
theorem step_cases (holder : Holder σ) (input : σ) :
    (∃ e, holder.step input = (holder, .error e)) ∨
    (∃ next, holder.step input = (next, .ok none) ∧ next.state = holder.state) ∨
    ∃ next, holder.step input = (next, .ok (some ⟨holder.state, input⟩)) ∧
      holder.state ≠ some input ∧ next.state = some input := by
  cases holder with
  | debounce m =>
      obtain ⟨e, h⟩ | ⟨next, h, same⟩ | ⟨next, h, away, arrived⟩ := m.feed_cases input
      · exact .inl ⟨e, by simp only [step, h]⟩
      · exact .inr (.inl ⟨.debounce next, by simp only [step, h], same⟩)
      · exact .inr (.inr ⟨.debounce next, by simp only [step, h, state], away, arrived⟩)
  | latch l =>
      by_cases here : l.held = some input
      · exact .inr (.inl ⟨.latch l, by simp only [step, Latch.step, if_pos here], rfl⟩)
      · exact .inr (.inr ⟨.latch ⟨some input⟩, by simp only [step, Latch.step, if_neg here, state],
          here, rfl⟩)

theorem run_debounce (m : Debounce σ) (inputs : List σ) :
    (Holder.debounce m).run inputs = .debounce (m.run inputs) := by
  induction inputs generalizing m with
  | nil => rfl
  | cons input rest ih => exact ih (m.after input)

end Holder

namespace Quorum

variable {ζ σ : Type} [Ord ζ] [Std.TransOrd ζ] [Std.LawfulEqOrd ζ]

/-- Put a holder in charge of a zone. -/
def put (q : Quorum ζ σ) (zone : ζ) (holder : Holder σ) : Quorum ζ σ :=
  { q with zones := q.zones.insert zone holder }

@[simp] theorem size_put (q : Quorum ζ σ) (zone : ζ) (holder : Holder σ) :
    (q.put zone holder).size = q.size := rfl

@[simp] theorem overall_put (q : Quorum ζ σ) (zone : ζ) (holder : Holder σ) :
    (q.put zone holder).overall = q.overall := rfl

theorem countP_put (p : Holder σ → Bool) (q : Quorum ζ σ) (zone : ζ) (holder : Holder σ) :
    (q.put zone holder).zones.values.countP p + (q.zones.get? zone).toList.countP p =
      q.zones.values.countP p + [holder].countP p :=
  Keyed.countP_values_insert p q.zones zone holder

variable [DecidableEq σ]

section Follow

omit [Std.TransOrd ζ] [Std.LawfulEqOrd ζ]

variable (q : Quorum ζ σ) (s : σ)

theorem follow_frame : (q.follow s).1.zones = q.zones ∧ (q.follow s).1.size = q.size ∧
    (q.follow s).1.prototype = q.prototype := by
  unfold follow
  split
  · exact ⟨rfl, rfl, rfl⟩
  · split <;> exact ⟨rfl, rfl, rfl⟩

theorem held_follow : (q.follow s).1.overall.held =
    if q.size ≤ q.support s then some s else q.overall.held := by
  by_cases few : q.support s < q.size
  · simp only [follow, if_pos few, if_neg (Nat.not_le.2 few)]
  · rw [if_pos (Nat.not_lt.1 few)]
    by_cases here : q.overall.held = some s
    · simpa only [follow, if_neg few, Latch.step, if_pos here] using here
    · simp only [follow, if_neg few, Latch.step, if_neg here]

theorem held_follow_eq : (q.follow s).1.overall.held =
    ((q.follow s).2.map (·.overall.after)).or q.overall.held := by
  by_cases few : q.support s < q.size
  · simp [follow, few]
  · by_cases here : q.overall.held = some s <;> simp [follow, few, Latch.step, here]

theorem follow_eq_some_iff {t : OverallTransition ζ σ} :
    (q.follow s).2 = some t ↔ q.size ≤ q.support s ∧ q.overall.held ≠ some s ∧
      t = ⟨⟨q.overall.held, s⟩, q.observations⟩ := by
  by_cases few : q.support s < q.size
  · simp [follow, few, Nat.not_le.2 few]
  · by_cases here : q.overall.held = some s
    · simp [follow, few, Latch.step, here]
    · simp [follow, few, Latch.step, here, Nat.not_lt.1 few, eq_comm, observations]

end Follow

/-- What a call does, by what the holder of the zone makes of the input. -/
theorem step_cases (q : Quorum ζ σ) (zone : ζ) (input : σ) :
    (∃ e, (q.holder zone).step input = (q.holder zone, .error e) ∧
      q.step zone input = (q.put zone (q.holder zone), .error e)) ∨
    (∃ next, (q.holder zone).step input = (next, .ok none) ∧
      next.state = (q.holder zone).state ∧ q.step zone input = (q.put zone next, .ok none)) ∨
    ∃ next, (q.holder zone).step input = (next, .ok (some ⟨(q.holder zone).state, input⟩)) ∧
      (q.holder zone).state ≠ some input ∧ next.state = some input ∧
      q.step zone input =
        (((q.put zone next).follow input).1, .ok ((q.put zone next).follow input).2) := by
  obtain ⟨e, h⟩ | ⟨next, h, same⟩ | ⟨next, h, away, arrived⟩ := (q.holder zone).step_cases input
  · exact .inl ⟨e, h, by simp only [step, h, put]⟩
  · exact .inr (.inl ⟨next, h, same, by simp only [step, h, put]⟩)
  · exact .inr (.inr ⟨next, h, away, arrived, by simp only [step, h, put]⟩)

theorem step_frame (q : Quorum ζ σ) (zone : ζ) (input : σ) :
    (q.step zone input).1.size = q.size ∧ (q.step zone input).1.prototype = q.prototype := by
  obtain ⟨e, -, h⟩ | ⟨next, -, -, h⟩ | ⟨next, -, -, -, h⟩ := q.step_cases zone input
  · rw [h]
    exact ⟨rfl, rfl⟩
  · rw [h]
    exact ⟨rfl, rfl⟩
  · rw [h]
    exact (follow_frame (q.put zone next) input).2

/-- Whatever comes of a call, its zone is the only one that it touches. -/
theorem zones_step (q : Quorum ζ σ) (zone : ζ) (input : σ) :
    (q.step zone input).1.zones = (q.put zone ((q.holder zone).after input)).zones := by
  obtain ⟨e, hs, h⟩ | ⟨next, hs, -, h⟩ | ⟨next, hs, -, -, h⟩ := q.step_cases zone input
  · rw [h, Holder.after, hs]
  · rw [h, Holder.after, hs]
  · rw [h, Holder.after, hs, (follow_frame _ input).1]

/-- The quorum after a call, which gives a zone a state. -/
def after (q : Quorum ζ σ) (call : ζ × σ) : Quorum ζ σ :=
  (q.step call.1 call.2).1

def run (q : Quorum ζ σ) (calls : List (ζ × σ)) : Quorum ζ σ :=
  calls.foldl after q

theorem run_concat (q : Quorum ζ σ) (calls : List (ζ × σ)) (call : ζ × σ) :
    q.run (calls ++ [call]) = (q.run calls).after call :=
  List.foldl_concat after q call calls

theorem run_frame (q : Quorum ζ σ) (calls : List (ζ × σ)) :
    (q.run calls).size = q.size ∧ (q.run calls).prototype = q.prototype := by
  induction calls using List.reverseRecOn with
  | nil => exact ⟨rfl, rfl⟩
  | append_singleton calls call ih =>
      rw [run_concat, after]
      obtain ⟨size, prototype⟩ := (q.run calls).step_frame call.1 call.2
      exact ⟨size.trans ih.1, prototype.trans ih.2⟩

variable [DecidableEq ζ]

/-- The inputs of one zone, in their order. -/
def inputsOf (zone : ζ) (calls : List (ζ × σ)) : List σ :=
  (calls.filter fun call => call.1 = zone).map Prod.snd

omit [Ord ζ] [Std.TransOrd ζ] [Std.LawfulEqOrd ζ] [DecidableEq σ] in
theorem inputsOf_concat (zone : ζ) (calls : List (ζ × σ)) (call : ζ × σ) :
    inputsOf zone (calls ++ [call]) =
      inputsOf zone calls ++ if call.1 = zone then [call.2] else [] := by
  by_cases same : call.1 = zone <;> simp [inputsOf, same]

theorem get?_zones_after (q : Quorum ζ σ) (call : ζ × σ) (zone : ζ) :
    (q.after call).zones.get? zone =
      if zone = call.1 then some ((q.holder call.1).after call.2) else q.zones.get? zone := by
  rw [after, zones_step, put, Keyed.get?_insert]

theorem holder_after (q : Quorum ζ σ) (call : ζ × σ) (zone : ζ) :
    (q.after call).holder zone =
      if zone = call.1 then (q.holder call.1).after call.2 else q.holder zone := by
  rw [Quorum.holder, get?_zones_after, after, (q.step_frame _ _).2]
  split <;> rfl

theorem holder_run (q : Quorum ζ σ) (calls : List (ζ × σ)) (zone : ζ) :
    (q.run calls).holder zone = (q.holder zone).run (inputsOf zone calls) := by
  induction calls using List.reverseRecOn with
  | nil => rfl
  | append_singleton calls call ih =>
      rw [run_concat, holder_after, inputsOf_concat]
      by_cases same : zone = call.1
      · subst same
        simp only [if_true, ih, Holder.run, List.foldl_concat]
      · rw [if_neg same, if_neg (Ne.symm same), List.append_nil, ih]

/-- A quorum that no zone has called yet, and that has seen nothing. -/
structure Fresh (q : Quorum ζ σ) : Prop where
  untracked : q.zones = .empty
  unheld : q.overall.held = none

omit [Std.TransOrd ζ] [Std.LawfulEqOrd ζ] [DecidableEq σ] [DecidableEq ζ] in
theorem new_of_pos {size : Nat} (positive : 0 < size) (prototype : Holder σ) :
    (Quorum.new size prototype : Except (ConfigError σ) (Quorum ζ σ)) =
      .ok ⟨size, positive, prototype, .empty, .empty⟩ :=
  dif_pos positive

omit [Std.TransOrd ζ] [Std.LawfulEqOrd ζ] [DecidableEq σ] [DecidableEq ζ] in
theorem fresh_of_new {size : Nat} {prototype : Holder σ} {q : Quorum ζ σ}
    (new : Quorum.new size prototype = .ok q) :
    Fresh q ∧ q.size = size ∧ q.prototype = prototype := by
  unfold Quorum.new at new
  split at new
  · cases new
    exact ⟨⟨rfl, rfl⟩, rfl, rfl⟩
  · cases new

omit [Std.TransOrd ζ] [Std.LawfulEqOrd ζ] [DecidableEq σ] [DecidableEq ζ] in
theorem Fresh.holder {q : Quorum ζ σ} (fresh : Fresh q) (zone : ζ) :
    q.holder zone = q.prototype := by
  rw [Quorum.holder, fresh.untracked, Keyed.get?_empty, Option.getD_none]

theorem Fresh.get?_zones_run {q : Quorum ζ σ} (fresh : Fresh q) (calls : List (ζ × σ)) (zone : ζ) :
    (q.run calls).zones.get? zone =
      if zone ∈ calls.map Prod.fst then some (q.prototype.run (inputsOf zone calls)) else none := by
  induction calls using List.reverseRecOn with
  | nil => simp [run, fresh.untracked]
  | append_singleton calls call ih =>
      rw [run_concat, get?_zones_after]
      by_cases same : zone = call.1
      · rw [if_pos same, holder_run, fresh.holder, ← same, inputsOf_concat, if_pos same.symm]
        simp [Holder.run, same]
      · have earlier : zone ∈ (calls ++ [call]).map Prod.fst ↔ zone ∈ calls.map Prod.fst := by
          simp [same]
        simp only [if_neg same, ih, inputsOf_concat, if_neg (Ne.symm same), List.append_nil,
          earlier]

theorem Fresh.get?_observations_run {q : Quorum ζ σ} (fresh : Fresh q) (calls : List (ζ × σ))
    (zone : ζ) :
    (q.run calls).observations.get? zone =
      if zone ∈ calls.map Prod.fst then some ((q.run calls).zoneState zone) else none := by
  rw [observations, Keyed.get?_mapValues, zoneState, fresh.get?_zones_run]
  split <;> rfl

end Quorum

end AlertEngine
