import AlertEngine.Proofs.SettledZones

/-! # Zone isolation

The zones of a quorum share one collection of holders, and the overall state is read off all of
them. Nothing flows the other way: what becomes of a zone depends on its own inputs alone, so that
calls for different zones can be interleaved at will.
-/

namespace AlertEngine.Quorum

variable {ζ σ : Type} [Ord ζ] [Std.TransOrd ζ] [Std.LawfulEqOrd ζ] [DecidableEq σ]

theorem step_error_iff (q : Quorum ζ σ) (zone : ζ) (input : σ) (e : ConfigError σ) :
    (q.step zone input).2 = .error e ↔ ((q.holder zone).step input).2 = .error e := by
  obtain ⟨e, hs, h⟩ | ⟨next, hs, -, h⟩ | ⟨next, hs, -, -, h⟩ := q.step_cases zone input
  · simp only [h, hs, Except.error.injEq]
  · simp only [h, hs, reduceCtorEq]
  · simp only [h, hs, reduceCtorEq]

theorem step_of_error {q : Quorum ζ σ} {zone : ζ} {input : σ} {e : ConfigError σ}
    (refused : (q.step zone input).2 = .error e) :
    (q.step zone input).1 = q.put zone (q.holder zone) := by
  obtain ⟨e, -, h⟩ | ⟨next, -, -, h⟩ | ⟨next, -, -, -, h⟩ := q.step_cases zone input
  · rw [h]
  · simp [h] at refused
  · simp [h] at refused

variable [DecidableEq ζ]

omit [Ord ζ] [Std.TransOrd ζ] [Std.LawfulEqOrd ζ] [DecidableEq σ] in
theorem inputsOf_eq_nil_iff {zone : ζ} {calls : List (ζ × σ)} :
    inputsOf zone calls = [] ↔ zone ∉ calls.map Prod.fst := by
  simp only [inputsOf, List.map_eq_nil_iff, List.filter_eq_nil_iff, decide_eq_true_eq,
    List.mem_map, not_exists, not_and]

omit [DecidableEq σ] in
theorem put_of_get? {q : Quorum ζ σ} {zone : ζ} {holder : Holder σ}
    (tracked : q.zones.get? zone = some holder) : q.put zone holder = q := by
  rw [put, Keyed.insert_of_get? tracked]

/-- What is tracked depends on the inputs of each zone, not on how the zones take turns. -/
theorem Fresh.zones_run_congr {q : Quorum ζ σ} (fresh : Fresh q) {calls other : List (ζ × σ)}
    (same : ∀ zone, inputsOf zone other = inputsOf zone calls) :
    (q.run other).zones = (q.run calls).zones := by
  ext1 zone
  have seen : zone ∈ other.map Prod.fst ↔ zone ∈ calls.map Prod.fst := by
    rw [← not_iff_not, ← inputsOf_eq_nil_iff, ← inputsOf_eq_nil_iff, same]
  simp only [fresh.get?_zones_run, seen, same]

theorem Fresh.size_run {q : Quorum ζ σ} (fresh : Fresh q) (calls : List (ζ × σ)) :
    (q.run calls).zones.size = (zonesOf calls).length := by
  rw [← (fresh.keys_run calls).length_eq, Keyed.keys, List.length_map, Keyed.size]

/-- Zone isolation. A zone is tracked once it has called, with what one new holder makes of its
    inputs, and its calls are refused when that holder refuses them. How zones take turns does not
    show in what is observed, and a refused call leaves nothing behind but a tracked zone. -/
theorem isolated_zones {size : Nat} {prototype : Holder σ} {q : Quorum ζ σ}
    (new : Quorum.new size prototype = .ok q) (calls : List (ζ × σ)) :
    let now := q.run calls
    let lone := fun zone => prototype.run (inputsOf zone calls)
    (∀ zone ∈ calls.map Prod.fst,
      now.zones.get? zone = some (lone zone) ∧ now.zoneState zone = (lone zone).state) ∧
    (∀ zone, zone ∉ calls.map Prod.fst → now.zones.get? zone = none) ∧
    now.zones.size = (zonesOf calls).length ∧
    (∀ zone input e,
      (now.step zone input).2 = .error e ↔ ((lone zone).step input).2 = .error e) ∧
    (∀ other, (∀ zone, inputsOf zone other = inputsOf zone calls) →
      (q.run other).zones = now.zones ∧ (q.run other).observations = now.observations ∧
        (q.run other).zones.size = now.zones.size) ∧
    ∀ zone input e, (now.step zone input).2 = .error e →
      (zone ∈ calls.map Prod.fst → (now.step zone input).1 = now) ∧
      (zone ∉ calls.map Prod.fst → (now.step zone input).1 = now.put zone prototype) := by
  obtain ⟨fresh, -, rfl⟩ := fresh_of_new new
  intro now lone
  have tracked : ∀ zone ∈ calls.map Prod.fst, now.zones.get? zone = some (lone zone) := by
    intro zone called
    rw [fresh.get?_zones_run, if_pos called]
  have holder : ∀ zone, now.holder zone = lone zone := by
    intro zone
    rw [holder_run, fresh.holder]
  refine ⟨fun zone called => ⟨tracked zone called, ?_⟩, ?_, fresh.size_run calls, ?_, ?_, ?_⟩
  · rw [zoneState, tracked zone called, Option.bind_some]
  · intro zone uncalled
    rw [fresh.get?_zones_run, if_neg uncalled]
  · intro zone input e
    rw [step_error_iff, holder]
  · intro other same
    have zones := fresh.zones_run_congr same
    exact ⟨zones, by rw [observations, observations, zones], by rw [zones]⟩
  · intro zone input e refused
    rw [step_of_error refused, holder]
    refine ⟨fun called => put_of_get? (tracked zone called), fun uncalled => ?_⟩
    simp only [lone, inputsOf_eq_nil_iff.2 uncalled, Holder.run, List.foldl_nil]

/-- The first zone goes on before or after the second has followed it, and a third is refused: the
    overall states differ and the observations do not. -/
theorem isolated_zones_interleaved :
    let m : Debounce Nat := ⟨[.once 5, .once 6], none, none⟩
    let early := [(1, 5), (2, 5), (3, 9), (1, 6)]
    let late := [(3, 9), (1, 5), (1, 6), (2, 5)]
    ∃ q : Quorum Nat Nat, Quorum.new 2 (.debounce m) = .ok q ∧
      (q.run early).overall.held = some 5 ∧ (q.run late).overall.held = none ∧
      (q.run late).observations = (q.run early).observations ∧
      (q.run early).zones.get? 3 = some (.debounce m) := by
  intro m early late
  have new : Quorum.new 2 (.debounce m) =
      .ok (⟨2, Nat.two_pos, .debounce m, .empty, .empty⟩ : Quorum Nat Nat) := rfl
  obtain ⟨tracked, -, -, -, interleaved, -⟩ := isolated_zones new early
  have same : ∀ zone, inputsOf zone late = inputsOf zone early := by
    intro zone
    by_cases first : zone = 1
    · subst first
      decide
    · by_cases second : zone = 2
      · subst second
        decide
      · simp [inputsOf, late, early, List.filter_cons, Ne.symm first, Ne.symm second]
  exact ⟨_, new, by decide, by decide, (interleaved late same).2.1, (tracked 3 (by decide)).1⟩

end AlertEngine.Quorum
