import AlertEngine.Proofs.OverallChain
import Mathlib.Data.List.Destutter

/-! # Larger quorums

A call carries a state when it takes its zone there and enough zones are then in it. The overall
state follows all that is carried, so the changes that are reported are the states carried, without
immediate repetitions. A larger quorum carries some of the states that a smaller one does, on the
same calls, and a sequence does not change more often for entries that are left out.
-/

namespace AlertEngine.Quorum

variable {ζ σ : Type} [Ord ζ] [Std.TransOrd ζ] [Std.LawfulEqOrd ζ] [DecidableEq σ]

/-- The state that a call takes its zone to, if enough zones are then in it. -/
def carried? (q : Quorum ζ σ) (call : ζ × σ) : Option σ :=
  (((q.holder call.1).step call.2).2.toOption.join.map Transition.after).filter fun s =>
    q.size ≤ (q.after call).support s

/-- The states that a run carries, in order. -/
def carried (q : Quorum ζ σ) (calls : List (ζ × σ)) : List σ :=
  Run.collect after carried? q calls

theorem carried?_eq_some_iff {q : Quorum ζ σ} {call : ζ × σ} {s : σ} :
    q.carried? call = some s ↔
      (∃ moved, ((q.holder call.1).step call.2).2 = .ok (some moved) ∧ moved.after = s) ∧
        q.size ≤ (q.after call).support s := by
  rw [carried?, Option.filter_eq_some_iff]
  cases ((q.holder call.1).step call.2).2 <;> simp [Except.toOption]

theorem change?_map_after (q : Quorum ζ σ) (call : ζ × σ) :
    (q.change? call).map (·.overall.after) =
      (q.carried? call).filter fun s => q.overall.held ≠ some s := by
  ext s
  simp only [Option.map_eq_some_iff, Option.filter_eq_some_iff, carried?_eq_some_iff,
    change?_eq_some_iff, step_change_iff, decide_eq_true_eq]
  constructor
  · rintro ⟨_, ⟨moved, move, enough, elsewhere, rfl⟩, rfl⟩
    exact ⟨⟨⟨moved, move, rfl⟩, enough⟩, elsewhere⟩
  · rintro ⟨⟨⟨moved, move, rfl⟩, enough⟩, elsewhere⟩
    exact ⟨_, ⟨moved, move, enough, elsewhere, rfl⟩, rfl⟩

theorem held_after (q : Quorum ζ σ) (call : ζ × σ) :
    (q.after call).overall.held = (q.carried? call).or q.overall.held := by
  rw [after, held_step, change?_map_after]
  cases q.carried? call with
  | none => rfl
  | some s => by_cases here : q.overall.held = some s <;> simp [Option.filter, here]

theorem held_append_changes (q : Quorum ζ σ) (calls : List (ζ × σ)) :
    q.overall.held.toList ++ (q.changes calls).map (·.overall.after) =
      (q.overall.held.toList ++ q.carried calls).destutter (· ≠ ·) := by
  induction calls generalizing q with
  | nil => cases h : q.overall.held <;> simp [changes, carried]
  | cons call rest ih =>
      have behind := ih (q.after call)
      have changes_cons : (q.changes (call :: rest)).map (·.overall.after) =
          ((q.change? call).map (·.overall.after)).toList ++
            ((q.after call).changes rest).map (·.overall.after) := by
        rw [changes, Run.collect, List.map_append, Option.toList_map]
        rfl
      have carried_cons : q.carried (call :: rest) =
          (q.carried? call).toList ++ (q.after call).carried rest := rfl
      rw [held_after] at behind
      rw [changes_cons, carried_cons, change?_map_after]
      cases h : q.carried? call with
      | none => simpa [h] using behind
      | some s =>
          simp only [h, Option.some_or, Option.toList_some, List.singleton_append,
            List.destutter_cons'] at behind
          by_cases here : q.overall.held = some s
          · simpa [here, Option.filter, List.destutter_cons'] using behind
          · cases before : q.overall.held with
            | none => simpa [Option.filter, List.destutter_cons'] using behind
            | some t =>
                have different : t ≠ s := by simpa [before] using here
                simpa [Option.filter, different, List.destutter_cons'] using behind

/-- Quorums with the same zones, of which the second one needs at least as many of them. -/
structure Wider (q q' : Quorum ζ σ) : Prop where
  zones : q'.zones = q.zones
  prototype : q'.prototype = q.prototype
  size : q.size ≤ q'.size

variable {q q' : Quorum ζ σ}

omit [Std.TransOrd ζ] [Std.LawfulEqOrd ζ] [DecidableEq σ] in
theorem Wider.holder (wider : Wider q q') (zone : ζ) : q'.holder zone = q.holder zone := by
  rw [Quorum.holder, Quorum.holder, wider.zones, wider.prototype]

theorem Wider.after (wider : Wider q q') (call : ζ × σ) :
    Wider (q.after call) (q'.after call) := by
  obtain ⟨size, prototype⟩ := q.step_frame call.1 call.2
  obtain ⟨size', prototype'⟩ := q'.step_frame call.1 call.2
  refine ⟨?_, ?_, ?_⟩
  · rw [Quorum.after, Quorum.after, zones_step, zones_step, put, put, wider.zones,
      wider.holder]
  · rw [Quorum.after, Quorum.after, prototype, prototype', wider.prototype]
  · rw [Quorum.after, Quorum.after, size, size']
    exact wider.size

theorem Wider.run (wider : Wider q q') (calls : List (ζ × σ)) :
    Wider (q.run calls) (q'.run calls) := by
  induction calls using List.reverseRecOn with
  | nil => exact wider
  | append_singleton calls call ih =>
      rw [run_concat, run_concat]
      exact ih.after call

omit [Std.TransOrd ζ] [Std.LawfulEqOrd ζ] [DecidableEq σ] in
theorem wider_of_new {size larger : Nat} {prototype : Holder σ} (le : size ≤ larger)
    (new : Quorum.new size prototype = .ok q) (new' : Quorum.new larger prototype = .ok q') :
    Wider q q' := by
  obtain ⟨fresh, asked, given⟩ := fresh_of_new new
  obtain ⟨fresh', asked', given'⟩ := fresh_of_new new'
  refine ⟨?_, ?_, ?_⟩
  · rw [fresh.untracked, fresh'.untracked]
  · rw [given, given']
  · rwa [asked, asked']

/-- What carries a state to the larger quorum carries it to the smaller one. -/
theorem Wider.carried?_eq_some (wider : Wider q q') {call : ζ × σ} {s : σ}
    (carried : q'.carried? call = some s) : q.carried? call = some s := by
  rw [carried?_eq_some_iff, wider.holder, support, (wider.after call).zones] at carried
  exact carried?_eq_some_iff.2 ⟨carried.1, wider.size.trans carried.2⟩

theorem Wider.carried_sublist (wider : Wider q q') (calls : List (ζ × σ)) :
    (q'.carried calls).Sublist (q.carried calls) := by
  induction calls generalizing q q' with
  | nil => exact .slnil
  | cons call rest ih =>
      have here : (q'.carried? call).toList.Sublist (q.carried? call).toList := by
        cases h : q'.carried? call with
        | none => exact List.nil_sublist _
        | some s => rw [wider.carried?_eq_some h]
      exact here.append (ih (wider.after call))

theorem Fresh.changes_length (fresh : Fresh q) (calls : List (ζ × σ)) :
    (q.changes calls).length = ((q.carried calls).destutter (· ≠ ·)).length := by
  have reported := q.held_append_changes calls
  rw [fresh.unheld, Option.toList_none, List.nil_append, List.nil_append] at reported
  rw [← reported, List.length_map]

/-- Raising the quorum. On the same calls, the larger quorum reports no more changes of its overall
    state than the smaller one, and where it does report one, the smaller one is in that state. -/
theorem fewer_changes_of_larger {size larger : Nat} (positive : 0 < size) (le : size ≤ larger)
    (prototype : Holder σ) :
    ∃ q q' : Quorum ζ σ,
      Quorum.new size prototype = .ok q ∧ Quorum.new larger prototype = .ok q' ∧
      ∀ calls,
        (q'.changes calls).length ≤ (q.changes calls).length ∧
        ∀ zone input t, ((q'.run calls).step zone input).2 = .ok (some t) →
          ((q.run calls).step zone input).1.overall.held = some t.overall.after := by
  obtain ⟨q, new⟩ : ∃ q : Quorum ζ σ, Quorum.new size prototype = .ok q :=
    ⟨_, new_of_pos positive prototype⟩
  obtain ⟨q', new'⟩ : ∃ q' : Quorum ζ σ, Quorum.new larger prototype = .ok q' :=
    ⟨_, new_of_pos (positive.trans_le le) prototype⟩
  have wider := wider_of_new le new new'
  refine ⟨q, q', new, new', fun calls => ⟨?_, fun zone input t reported => ?_⟩⟩
  · rw [(fresh_of_new new).1.changes_length, (fresh_of_new new').1.changes_length]
    exact (List.isChain_destutter _ _).length_le_length_destutter_ne
      ((List.destutter_sublist _ _).trans (wider.carried_sublist calls))
  · obtain ⟨moved, move, enough, -, rfl⟩ := ((q'.run calls).step_change_iff zone input t).1 reported
    have carried : (q'.run calls).carried? (zone, input) = some moved.after :=
      carried?_eq_some_iff.2 ⟨⟨moved, move, rfl⟩, enough⟩
    have follows := (q.run calls).held_after (zone, input)
    rw [(wider.run calls).carried?_eq_some carried, Option.some_or] at follows
    exact follows

/-- Two zones take two of three to a state and back again, before the third one joins them. -/
theorem fewer_changes_of_larger_three_zones :
    let calls := [(1, 5), (2, 5), (1, 6), (2, 6), (1, 5), (2, 5)]
    ∃ q q' : Quorum Nat Nat, Quorum.latching 2 = .ok q ∧ Quorum.latching 3 = .ok q' ∧
      (q.changes calls).length = 3 ∧ (q'.changes calls).length ≤ 3 ∧
      ((q'.run calls).step 3 5).2 =
        .ok (some ⟨⟨none, 5⟩, .ofList [(1, some 5), (2, some 5), (3, some 5)]⟩) ∧
      ((q.run calls).step 3 5).1.overall.held = some 5 := by
  intro calls
  obtain ⟨q, q', new, new', law⟩ := fewer_changes_of_larger (ζ := Nat) (by decide : 0 < 2)
    (by decide : 2 ≤ 3) (.latch (.empty : Latch Nat))
  obtain rfl : ⟨2, Nat.two_pos, .latch .empty, .empty, .empty⟩ = q := Except.ok.inj new
  obtain rfl : ⟨3, Nat.succ_pos 2, .latch .empty, .empty, .empty⟩ = q' := Except.ok.inj new'
  obtain ⟨fewer, agree⟩ := law calls
  refine ⟨_, _, new, new', by decide, fewer.trans_eq (by decide), by decide, ?_⟩
  exact agree 3 5 ⟨⟨none, 5⟩, .ofList [(1, some 5), (2, some 5), (3, some 5)]⟩ (by decide)

end AlertEngine.Quorum
