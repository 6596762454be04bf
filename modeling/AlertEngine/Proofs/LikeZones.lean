import AlertEngine.Proofs.OverallChain

/-! # Like zones

Holders of different kinds can be alike: in the same state, with the same answer to every input
that may come, and alike again after it. A quorum sees no more of its zones than that, so quorums
of like zones cannot be told apart. Latches are like machines in which every state counts once.
-/

namespace AlertEngine

variable {σ : Type}

namespace Quorum

variable {ζ : Type} [Ord ζ]

/-- Quorums of the same size, with the same overall state and like zones. -/
structure Similar (Like : Holder σ → Holder σ → Prop) (q q' : Quorum ζ σ) : Prop where
  size : q'.size = q.size
  overall : q'.overall = q.overall
  prototype : Like q.prototype q'.prototype
  zones : ∀ zone, Option.Rel Like (q.zones.get? zone) (q'.zones.get? zone)

variable {Like : Holder σ → Holder σ → Prop} {q q' : Quorum ζ σ}

theorem Similar.holder (similar : Similar Like q q') (zone : ζ) :
    Like (q.holder zone) (q'.holder zone) := by
  have alike := similar.zones zone
  rw [Quorum.holder, Quorum.holder]
  generalize q.zones.get? zone = tracked, q'.zones.get? zone = tracked' at alike
  cases alike with
  | none => exact similar.prototype
  | some h => exact h

theorem zoneState_eq_join (q : Quorum ζ σ) (zone : ζ) :
    q.zoneState zone = (q.observations.get? zone).join := by
  rw [zoneState, observations, Keyed.get?_mapValues]
  cases q.zones.get? zone <;> rfl

variable [Std.TransOrd ζ] [Std.LawfulEqOrd ζ]

theorem Similar.put [DecidableEq ζ] (similar : Similar Like q q') (zone : ζ) {h h' : Holder σ}
    (alike : Like h h') : Similar Like (q.put zone h) (q'.put zone h') := by
  refine ⟨similar.size, similar.overall, similar.prototype, fun other => ?_⟩
  rw [Quorum.put, Quorum.put, Keyed.get?_insert, Keyed.get?_insert]
  split
  · exact .some alike
  · exact similar.zones other

end Quorum

variable [DecidableEq σ]

/-- What makes holders indistinguishable as long as only admitted inputs come. -/
structure Holder.Simulation (Admitted : σ → Prop) (Like : Holder σ → Holder σ → Prop) : Prop where
  state : ∀ {h h'}, Like h h' → h'.state = h.state
  outcome : ∀ {h h' input}, Like h h' → Admitted input → (h'.step input).2 = (h.step input).2
  after : ∀ {h h' input}, Like h h' → Admitted input → Like (h.after input) (h'.after input)

namespace Quorum

variable {ζ : Type} [Ord ζ] [Std.TransOrd ζ] [Std.LawfulEqOrd ζ] {Admitted : σ → Prop}
  {Like : Holder σ → Holder σ → Prop} {q q' : Quorum ζ σ}

section Follow

variable (sim : Holder.Simulation Admitted Like) (similar : Similar Like q q')

include sim similar

theorem Similar.observations_eq : q'.observations = q.observations := by
  ext1 zone
  have alike := similar.zones zone
  rw [observations, observations, Keyed.get?_mapValues, Keyed.get?_mapValues]
  generalize q.zones.get? zone = tracked, q'.zones.get? zone = tracked' at alike
  cases alike with
  | none => rfl
  | some h => exact congrArg some (sim.state h)

theorem Similar.support_eq (s : σ) : q'.support s = q.support s := by
  rw [← countP_observations, ← countP_observations, similar.observations_eq sim]

theorem Similar.follow_eq (s : σ) :
    (q'.follow s).1.overall = (q.follow s).1.overall ∧ (q'.follow s).2 = (q.follow s).2 := by
  simp only [follow, similar.support_eq sim, similar.size, similar.overall,
    similar.observations_eq sim]
  split
  · exact ⟨similar.overall, rfl⟩
  · split <;> exact ⟨rfl, rfl⟩

theorem Similar.follow (s : σ) : Similar Like (q.follow s).1 (q'.follow s).1 := by
  obtain ⟨zones, size, prototype⟩ := q.follow_frame s
  obtain ⟨zones', size', prototype'⟩ := q'.follow_frame s
  refine ⟨?_, (similar.follow_eq sim s).1, ?_, fun zone => ?_⟩
  · rw [size, size', similar.size]
  · rw [prototype, prototype']
    exact similar.prototype
  · rw [zones, zones']
    exact similar.zones zone

end Follow

theorem step_eq (q : Quorum ζ σ) (zone : ζ) (input : σ) :
    let next := q.put zone ((q.holder zone).after input)
    q.step zone input =
      match ((q.holder zone).step input).2 with
      | .error e => (next, .error e)
      | .ok none => (next, .ok none)
      | .ok (some moved) => ((next.follow moved.after).1, .ok (next.follow moved.after).2) := rfl

variable [DecidableEq ζ]

theorem Similar.step (sim : Holder.Simulation Admitted Like) (similar : Similar Like q q')
    (zone : ζ) {input : σ} (admitted : Admitted input) :
    Similar Like (q.step zone input).1 (q'.step zone input).1 ∧
      (q'.step zone input).2 = (q.step zone input).2 := by
  have alike := similar.holder zone
  have next := similar.put zone (sim.after alike admitted)
  rw [step_eq, step_eq, sim.outcome alike admitted]
  cases ((q.holder zone).step input).2 with
  | error e => exact ⟨next, rfl⟩
  | ok moved =>
      cases moved with
      | none => exact ⟨next, rfl⟩
      | some moved =>
          exact ⟨next.follow sim moved.after, congrArg Except.ok (next.follow_eq sim moved.after).2⟩

theorem Similar.run (sim : Holder.Simulation Admitted Like) (similar : Similar Like q q')
    {calls : List (ζ × σ)} (admitted : ∀ call ∈ calls, Admitted call.2) :
    Similar Like (q.run calls) (q'.run calls) := by
  induction calls using List.reverseRecOn with
  | nil => exact similar
  | append_singleton calls call ih =>
      rw [List.forall_mem_append, List.forall_mem_singleton] at admitted
      rw [run_concat, run_concat]
      exact ((ih admitted.1).step sim call.1 admitted.2).1

end Quorum

/-- A latch, and a machine that is in the same state and waits for nothing. -/
inductive Holder.SingleCount (specs : List (StateSpec σ)) : Holder σ → Holder σ → Prop where
  | intro (held : Option σ) : SingleCount specs (.latch ⟨held⟩) (.debounce ⟨specs, held, none⟩)

theorem Debounce.count?_of_single {m : Debounce σ} {s : σ}
    (single : ∀ spec ∈ m.specs, spec.count = 1) (declared : ∃ spec ∈ m.specs, spec.state = s) :
    m.count? s = some 1 := by
  have known : m.count? s ≠ none := by simpa [count?_eq_none_iff] using declared
  obtain ⟨n, count⟩ := Option.ne_none_iff_exists'.1 known
  obtain ⟨spec, found, rfl⟩ := Option.map_eq_some_iff.1 count
  rw [count, single spec (List.mem_of_find?_eq_some found)]

theorem Holder.simulation_of_single {specs : List (StateSpec σ)}
    (single : ∀ spec ∈ specs, spec.count = 1) :
    Simulation (fun s => ∃ spec ∈ specs, spec.state = s) (SingleCount specs) := by
  have latched : ∀ held input, (⟨held⟩ : Latch σ).step input =
      (⟨some input⟩, ((⟨held⟩ : Latch σ).step input).2) := fun held input =>
    Prod.ext (congrArg Latch.mk (Latch.held_step ⟨held⟩ input)) rfl
  have fed : ∀ held input, (∃ spec ∈ specs, spec.state = input) →
      (⟨specs, held, none⟩ : Debounce σ).feed input =
        (⟨specs, some input, none⟩, .ok ((⟨held⟩ : Latch σ).step input).2) := by
    intro held input declared
    by_cases here : held = some input
    · subst here
      rw [Debounce.feed_here rfl, Latch.step, if_pos rfl]
    · have needed : (⟨specs, held, none⟩ : Debounce σ).needed? input = some 1 :=
        Debounce.count?_of_single single declared
      rw [Debounce.feed_full here needed le_rfl, Latch.step, if_neg here]
  refine ⟨?_, ?_, ?_⟩
  · rintro _ _ ⟨held⟩
    rfl
  · rintro _ _ input ⟨held⟩ declared
    simp only [step, fed held input declared]
  · rintro _ _ input ⟨held⟩ declared
    rw [after, after, step, step, fed held input declared, latched held input]
    exact .intro (some input)

namespace Quorum

variable {ζ : Type} [Ord ζ] [Std.TransOrd ζ] [Std.LawfulEqOrd ζ] [DecidableEq ζ]

/-- Latches are machines in which every state counts once. As long as all states that come are
    declared, quorums of the one and of the other give the same answers to all calls, and after each
    of them the same states are to be seen. -/
theorem latches_like_single_counts {size : Nat} {specs : List (StateSpec σ)} (positive : 0 < size)
    (nonempty : specs ≠ []) (single : ∀ spec ∈ specs, spec.count = 1) :
    ∃ (machine : Debounce σ) (latches counters : Quorum ζ σ),
      Debounce.new specs = .ok machine ∧ Quorum.latching size = .ok latches ∧
      Quorum.new size (.debounce machine.indeterminate) = .ok counters ∧
      ∀ calls, (∀ call ∈ calls, ∃ spec ∈ specs, spec.state = call.2) →
        (counters.run calls).overall.held = (latches.run calls).overall.held ∧
        (∀ zone, (counters.run calls).zoneState zone = (latches.run calls).zoneState zone) ∧
        (counters.run calls).observations = (latches.run calls).observations ∧
        ∀ zone input, (∃ spec ∈ specs, spec.state = input) →
          ((counters.run calls).step zone input).2 = ((latches.run calls).step zone input).2 := by
  obtain ⟨spec, rest, rfl⟩ := List.exists_cons_of_ne_nil nonempty
  refine ⟨_, _, _, rfl, new_of_pos positive _, new_of_pos positive _, fun calls declared => ?_⟩
  have sim := Holder.simulation_of_single single
  have start : Similar (Holder.SingleCount (spec :: rest))
      (⟨size, positive, .latch .empty, .empty, .empty⟩ : Quorum ζ σ)
      ⟨size, positive, .debounce ⟨spec :: rest, none, none⟩, .empty, .empty⟩ :=
    ⟨rfl, rfl, .intro none, fun _ => .none⟩
  have now := start.run sim declared
  have observed := now.observations_eq sim
  refine ⟨congrArg Latch.held now.overall, fun zone => ?_, observed, fun zone input known => ?_⟩
  · rw [zoneState_eq_join, zoneState_eq_join]
    exact congrArg (fun observations => (observations.get? zone).join) observed
  · exact (now.step sim zone known).2

/-- The second of two zones follows the first one to and fro. -/
theorem latches_like_single_counts_two_zones :
    let specs : List (StateSpec Nat) := [.once 5, .once 6, .once 5]
    let calls := [(1, 5), (2, 6), (1, 6), (2, 5)]
    ∃ latches counters : Quorum Nat Nat, Quorum.latching 2 = .ok latches ∧
      Quorum.new 2 (.debounce ⟨specs, none, none⟩) = .ok counters ∧
      (counters.run calls).overall.held = some 6 ∧
      ((counters.run calls).step 1 5).2 =
        .ok (some ⟨⟨some 6, 5⟩, .ofList [(1, some 5), (2, some 5)]⟩) := by
  intro specs calls
  obtain ⟨machine, latches, counters, made, latching, counting, same⟩ :=
    latches_like_single_counts (ζ := Nat) Nat.two_pos (List.cons_ne_nil _ _ : specs ≠ [])
      (by decide)
  obtain rfl : ⟨specs, some 5, none⟩ = machine := Except.ok.inj made
  obtain rfl : ⟨2, Nat.two_pos, .latch .empty, .empty, .empty⟩ = latches := Except.ok.inj latching
  obtain ⟨overall, -, -, answers⟩ := same calls (by decide)
  refine ⟨_, _, latching, counting, overall.trans (by decide), ?_⟩
  exact (answers 1 5 (by decide)).trans (by decide)

end Quorum

end AlertEngine
