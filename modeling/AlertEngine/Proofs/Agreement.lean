import AlertEngine.Proofs.QuorumRun

/-! # Agreement

Only a zone that moves makes a quorum count, so the overall state can be out of date. It cannot be
while enough zones agree on a state and too few to outvote them do not: whoever moved the overall
state elsewhere since the last of them agreed has left as many zones disagreeing.
-/

namespace AlertEngine.Quorum

variable {ζ σ : Type} [Ord ζ] [DecidableEq σ]

/-- How many zones are not in a state. -/
def dissent (q : Quorum ζ σ) (s : σ) : Nat :=
  q.zones.values.countP fun holder => holder.state ≠ some s

/-- A state that enough zones are in is the overall state, or enough zones are not in it. -/
structure Agrees (q : Quorum ζ σ) : Prop where
  unknown : q.prototype.state = none
  overall : ∀ s, q.size ≤ q.support s → q.overall.held = some s ∨ q.size ≤ q.dissent s

theorem support_add_dissent (q : Quorum ζ σ) (s : σ) :
    q.support s + q.dissent s = q.zones.size := by
  have split := List.length_eq_countP_add_countP (fun holder : Holder σ => holder.state = some s)
    (l := q.zones.values)
  simp only [Keyed.values, List.length_map] at split
  simp only [support, dissent, Keyed.size, Keyed.values, split, decide_not, decide_eq_true_eq]

theorem support_le_dissent (q : Quorum ζ σ) {s t : σ} (different : s ≠ t) :
    q.support t ≤ q.dissent s := by
  refine List.countP_mono_left fun holder _ here => ?_
  simp only [decide_eq_true_eq] at here ⊢
  simpa only [here, ne_eq, Option.some_inj] using different.symm

theorem agrees_of_new {size : Nat} {prototype : Holder σ} {q : Quorum ζ σ}
    (new : Quorum.new size prototype = .ok q) (unknown : prototype.state = none) : Agrees q := by
  obtain ⟨fresh, -, rfl⟩ := fresh_of_new new
  refine ⟨unknown, fun s enough => ?_⟩
  have nobody : q.support s = 0 := by
    rw [support, fresh.untracked]
    rfl
  have := q.size_pos
  omega

variable [Std.TransOrd ζ] [Std.LawfulEqOrd ζ]

theorem put_of_not_entering {q : Quorum ζ σ} (unknown : q.prototype.state = none) {zone : ζ}
    {next : Holder σ} {s : σ} (h : next.state = (q.holder zone).state ∨ next.state ≠ some s) :
    (q.put zone next).support s ≤ q.support s ∧ q.dissent s ≤ (q.put zone next).dissent s := by
  have supporting := countP_put (fun holder => holder.state = some s) q zone next
  have dissenting := countP_put (fun holder => holder.state ≠ some s) q zone next
  simp only [support, dissent]
  cases tracked : q.zones.get? zone with
  | none =>
      have out : next.state ≠ some s := by
        rcases h with same | out
        · rw [same, Quorum.holder, tracked, Option.getD_none, unknown]
          simp
        · exact out
      simp [tracked, out] at supporting dissenting ⊢
      omega
  | some old =>
      have holder : q.holder zone = old := by rw [Quorum.holder, tracked, Option.getD_some]
      rw [holder] at h
      rcases h with same | out
      · simp [tracked, same] at supporting dissenting ⊢
        omega
      · by_cases before : old.state = some s <;>
          simp [tracked, out, before] at supporting dissenting ⊢ <;> omega

theorem Agrees.step {q : Quorum ζ σ} (agrees : Agrees q) (zone : ζ) (input : σ) :
    Agrees (q.step zone input).1 := by
  obtain ⟨size, prototype⟩ := q.step_frame zone input
  refine ⟨by rw [prototype, agrees.unknown], fun s enough => ?_⟩
  rw [size] at enough ⊢
  have stays : ∀ {next : Holder σ},
      next.state = (q.holder zone).state ∨ next.state ≠ some s →
      q.size ≤ (q.put zone next).support s →
      q.overall.held = some s ∨ q.size ≤ (q.put zone next).dissent s := by
    intro next h enough
    obtain ⟨fewer, more⟩ := put_of_not_entering agrees.unknown h
    exact (agrees.overall s (enough.trans fewer)).imp_right (·.trans more)
  obtain ⟨e, -, h⟩ | ⟨next, -, same, h⟩ | ⟨next, -, -, arrived, h⟩ := q.step_cases zone input
  · rw [h] at enough ⊢
    exact stays (.inl rfl) enough
  · rw [h] at enough ⊢
    exact stays (.inl same) enough
  · obtain ⟨zones, -⟩ := follow_frame (q.put zone next) input
    rw [h] at enough ⊢
    simp only [support, dissent, zones] at enough ⊢
    rw [held_follow]
    by_cases entered : input = s
    · subst entered
      exact .inl (if_pos enough)
    · have out : next.state ≠ some s := by simpa [arrived] using entered
      split
      · next reached => exact .inr (reached.trans (support_le_dissent _ (Ne.symm entered)))
      · exact stays (.inr out) enough

theorem Agrees.run {q : Quorum ζ σ} (agrees : Agrees q) (calls : List (ζ × σ)) :
    Agrees (q.run calls) := by
  induction calls using List.reverseRecOn with
  | nil => exact agrees
  | append_singleton calls call ih =>
      rw [run_concat]
      exact ih.step call.1 call.2

/-- Zones that start in no state cannot agree, undisputed, on anything but the overall state. So it
    follows them at once under a strict majority, and when enough of them are unanimous. -/
theorem overall_of_agreement {size : Nat} {prototype : Holder σ} {q : Quorum ζ σ}
    (new : Quorum.new size prototype = .ok q) (unknown : prototype.state = none)
    (calls : List (ζ × σ)) (s : σ) :
    let now := q.run calls
    (size ≤ now.support s → now.dissent s < size → now.overall.held = some s) ∧
    (size ≤ now.support s → now.zones.size < 2 * size → now.overall.held = some s) ∧
    (size ≤ now.support s → now.support s = now.zones.size → now.overall.held = some s) := by
  intro now
  have agrees := (agrees_of_new new unknown).run calls
  have same : now.size = size := by rw [(q.run_frame calls).1, (fresh_of_new new).2.1]
  have undisputed : size ≤ now.support s → now.dissent s < size → now.overall.held = some s := by
    intro enough few
    rw [← same] at enough few
    exact (agrees.overall s enough).resolve_right (Nat.not_le.2 few)
  have total := now.support_add_dissent s
  have := q.size_pos
  have := (fresh_of_new new).2.1
  exact ⟨undisputed, fun enough majority => undisputed enough (by omega),
    fun enough unanimous => undisputed enough (by omega)⟩

/-- Three latches, two of which agree after the third has left them. -/
theorem overall_of_agreement_latching :
    ∃ q : Quorum Nat Nat, Quorum.latching 2 = .ok q ∧
      let now := q.run [(1, 5), (2, 5), (3, 5), (3, 6)]
      now.support 5 = 2 ∧ now.dissent 5 = 1 ∧ now.overall.held = some 5 := by
  have new : Quorum.new 2 (.latch .empty) =
      .ok (⟨2, Nat.two_pos, .latch .empty, .empty, .empty⟩ : Quorum Nat Nat) := rfl
  refine ⟨_, new, by decide, by decide, ?_⟩
  exact (overall_of_agreement new rfl _ 5).1 (by decide) (by decide)

/-- Zones that start in a state can agree on it without anyone having moved there. -/
example :
    let start : Debounce Nat := ⟨[.once 5], some 5, none⟩
    let now := (⟨1, Nat.one_pos, .debounce start, .empty, .empty⟩ : Quorum Nat Nat).run [(1, 5)]
    now.support 5 = 1 ∧ now.dissent 5 = 0 ∧ now.overall.held = none := by
  decide

end AlertEngine.Quorum
