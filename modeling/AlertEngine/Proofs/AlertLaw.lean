import AlertEngine.Pattern.Reader
import AlertEngine.Proofs.MonitorRun

/-! # The alert law

What a monitor announces, said without holders, counters and latches: only the histories of the
zones, the states that they settle on, and the announcement before matter.
-/

namespace AlertEngine

open History

theorem Holder.moved_iff {σ : Type} [DecidableEq σ] (holder : Holder σ) (input s : σ) :
    (∃ moved, (holder.step input).2 = .ok (some moved) ∧ moved.after = s) ↔
      holder.state ≠ some s ∧ (holder.after input).state = some s := by
  obtain ⟨e, h⟩ | ⟨next, h, same⟩ | ⟨next, h, away, arrived⟩ := holder.step_cases input
  · simp [Holder.after, h]
  · simp [Holder.after, h, same]
  · simp only [Holder.after, h, arrived, Except.ok.injEq, Option.some_inj]
    constructor
    · rintro ⟨moved, rfl, rfl⟩
      exact ⟨away, rfl⟩
    · rintro ⟨-, rfl⟩
      exact ⟨_, rfl, rfl⟩

namespace Quorum

variable {ζ σ : Type} [Ord ζ] [Std.TransOrd ζ] [Std.LawfulEqOrd ζ] [DecidableEq σ]

theorem Fresh.held_run {q : Quorum ζ σ} (fresh : Fresh q) (calls : List (ζ × σ)) :
    (q.run calls).overall.held = (q.changes calls).getLast?.map (·.overall.after) := by
  have chain := (q.chain_changes calls).last
  rw [fresh.unheld, Option.or_none, List.getLast?_map, Option.map_map] at chain
  exact chain

variable [DecidableEq ζ] {q : Quorum ζ σ} {m : Debounce σ}

/-- A change of the overall state, by the histories of the zones before and after a call. -/
theorem Debouncing.change?_eq_some_iff (h : Debouncing q m) (calls : List (ζ × σ)) (call : ζ × σ)
    (t : OverallTransition ζ σ) :
    let last := (q.changes calls).getLast?.map (·.overall.after)
    let before := fun zone => settled m.count? (inputsOf zone calls)
    let now := fun zone => settled m.count? (inputsOf zone (calls ++ [call]))
    (q.run calls).change? call = some t ↔
      ∃ s, (before call.1 ≠ some s ∧ now call.1 = some s) ∧
        q.size ≤ (zonesOf (calls ++ [call])).countP (fun zone => now zone = some s) ∧
        last ≠ some s ∧ t.overall = ⟨last, s⟩ ∧
        ∀ zone, t.observations.get? zone =
          if zone ∈ zonesOf (calls ++ [call]) then some (now zone) else none := by
  intro last before now
  have observed : ∀ zone, (q.run (calls ++ [call])).observations.get? zone =
      if zone ∈ zonesOf (calls ++ [call]) then some (now zone) else none := by
    intro zone
    simp only [h.fresh.get?_observations_run, h.zoneState_run, zonesOf, List.mem_dedup, now]
  have supported : ∀ s, ((q.run calls).after call).support s =
      (zonesOf (calls ++ [call])).countP fun zone => now zone = some s := by
    intro s
    rw [← run_concat, h.support_run]
  have moves : ∀ s, (before call.1 ≠ some s ∧ now call.1 = some s) ↔
      ∃ moved, (((q.run calls).holder call.1).step call.2).2 = .ok (some moved) ∧
        moved.after = s := by
    intro s
    rw [Holder.moved_iff, h.state_run]
    have entered := h.state_run (calls ++ [call]) call.1
    rw [run_concat, holder_after, if_pos rfl] at entered
    rw [entered]
  rw [Quorum.change?_eq_some_iff, step_change_iff, (q.run_frame calls).1, h.fresh.held_run]
  simp only [moves, ← observed, ← supported, run_concat]
  constructor
  · rintro ⟨moved, move, enough, elsewhere, rfl⟩
    exact ⟨moved.after, ⟨moved, move, rfl⟩, enough, elsewhere, rfl, fun _ => rfl⟩
  · rintro ⟨s, ⟨moved, move, rfl⟩, enough, elsewhere, overall, observations⟩
    refine ⟨moved, move, enough, elsewhere, ?_⟩
    obtain ⟨_, _⟩ := t
    obtain rfl := overall
    exact congrArg _ (Keyed.ext_get? observations)

end Quorum

namespace Monitor

theorem positive_counts {task : Task} {m : Monitor} (h : Monitor.ofTask task = .ok m) :
    Positive fun _ : AlertState => some task.parameters.consecutive.toNat := by
  obtain ⟨positive, -⟩ := ofTask_eq_ok h
  rintro _ _ ⟨⟩
  exact positive

section Language

variable [PatternLanguage]

theorem announces_iff (m : Monitor) (sample : Sample)
    (t : OverallTransition String AlertState) :
    (∃ message, (m.process sample).2 = .ok (some ⟨t, message⟩)) ↔
      (m.announcement? sample).map (·.transition) = some t := by
  unfold announcement?
  cases (m.process sample).2 with
  | error e => simp [Except.toOption]
  | ok announcement =>
      cases announcement with
      | none => simp [Except.toOption]
      | some a =>
          obtain ⟨transition, message⟩ := a
          simp [Except.toOption]

/-- The alert law. A sample is announced exactly when it settles its zone on another state, enough
    zones are then settled on that state, and it is not the one announced before; a sample that
    fails leaves no trace. -/
theorem announced_by_history {task : Task} {start : Monitor}
    (accepted : Monitor.ofTask task = .ok start) (samples : List Sample) (sample : Sample) :
    let counts := fun _ : AlertState => some task.parameters.consecutive.toNat
    let before := fun zone => settled counts (start.historyOf samples zone)
    let now := fun zone => settled counts (start.historyOf (samples ++ [sample]) zone)
    let zones := start.zonesOf (samples ++ [sample])
    let last := (start.announcements samples).getLast?.map (·.transition.overall.after)
    let outcome := (start.run samples).process sample
    (∀ history s, settled counts history = some s ↔ Latest counts history s) ∧
    (∀ t, (∃ message, outcome.2 = .ok (some ⟨t, message⟩)) ↔
      ∃ s, (before sample.zone ≠ some s ∧ now sample.zone = some s) ∧
        task.parameters.quorum.toNat ≤ zones.countP (fun zone => now zone = some s) ∧
        last ≠ some s ∧ t.overall = ⟨last, s⟩ ∧
        ∀ zone, t.observations.get? zone = if zone ∈ zones then some (now zone) else none) ∧
    ∀ e, outcome.2 = .error e → outcome.1 = start.run samples := by
  intro counts before now zones last outcome
  obtain ⟨positive, new, -⟩ := ofTask_eq_ok accepted
  obtain ⟨_, debouncing⟩ := debouncing_of_ofTask accepted
  have follows := follows_run debouncing samples
  refine ⟨fun _ _ => settled_eq_some_iff (positive_counts accepted), fun t => ?_, ?_⟩
  · rw [announces_iff]
    obtain ⟨e, -, -, unlogged, unannounced⟩ | ⟨state, _, -, -, logged, announced⟩ :=
      process_cases debouncing follows.zones sample
    · have same : now = before := by
        funext zone
        simp only [now, before, historyOf, log_concat, unlogged, Option.toList_none,
          List.append_nil]
      rw [unannounced, same]
      simp +contextual
    · have longer :
          start.log (samples ++ [sample]) = start.log samples ++ [(sample.zone, state)] := by
        rw [log_concat, logged, Option.toList_some]
      have law := debouncing.change?_eq_some_iff (start.log samples) (sample.zone, state) t
      have size : start.zones.size = task.parameters.quorum.toNat := (Quorum.fresh_of_new new).2.1
      simp only [← longer, count?_zoneMachine, size, ← follows.announced,
        List.getLast?_map, Option.map_map] at law
      rw [announced, follows.zones]
      exact law
  · intro e refused
    obtain ⟨e, -, processed, -⟩ | ⟨_, _, -, processed, -⟩ :=
      process_cases debouncing follows.zones sample
    · exact congrArg Prod.fst processed
    · simp only [outcome, processed, reduceCtorEq] at refused

end Language

/-- Two zones that are down twice each, the second after a sample that cannot be compared. -/
theorem announced_by_history_two_zones :
    let parameters : TaskParameters := { quorum := 2, consecutive := 2, rules := [.down none] }
    let task : Task := { (default : Task) with parameters := parameters }
    let samples : List Sample := [.up "west" (.text "no"), .up "east" (.text "no"),
      .up "east" (.integer 1), .up "west" (.text "no")]
    ∃ start, Monitor.ofTask task = .ok start ∧
      ∃ message, ((start.run samples).process (.up "east" (.text "no"))).2 =
        .ok (some ⟨⟨⟨none, .critical⟩,
          .ofList [("east", some .critical), ("west", some .critical)]⟩, message⟩) := by
  intro parameters task samples
  let start : Monitor := initial task (by decide) (by decide)
  have accepted : Monitor.ofTask task = .ok start := ofTask_eq_initial task _ _
  refine ⟨start, accepted, ?_⟩
  obtain ⟨-, law, -⟩ := announced_by_history accepted samples (.up "east" (.text "no"))
  refine (law _).2 ⟨.critical, ⟨by decide +kernel, by decide +kernel⟩, by decide +kernel,
    by decide +kernel, by decide +kernel, fun zone => ?_⟩
  by_cases east : zone = "east"
  · subst east
    decide +kernel
  · by_cases west : zone = "west"
    · subst west
      decide +kernel
    · have zones : start.zonesOf (samples ++ [.up "east" (.text "no")]) = ["west", "east"] := by
        decide +kernel
      rw [zones, if_neg (by simp [east, west])]
      simp [Keyed.ofList, Keyed.get?_insert, east, west]

end Monitor

end AlertEngine
