import AlertEngine.Proofs.History
import AlertEngine.Proofs.Run
import AlertEngine.State.Debounce

/-! # Debouncing by history

A machine counts down to the state that it waits for. Its state and what it waits for are read off
the history of its inputs: it is in the state of the latest block, and it waits for the last input
as often as the run of that input at the end of the history is short of a block.
-/

namespace AlertEngine.Debounce

open History

variable {σ : Type} [DecidableEq σ]

/-- The machine after an input. -/
def after (m : Debounce σ) (input : σ) : Debounce σ :=
  (m.feed input).1

def run (m : Debounce σ) (inputs : List σ) : Debounce σ :=
  inputs.foldl after m

/-- The input itself, unless the machine refuses it. -/
def taken? (m : Debounce σ) (input : σ) : Option σ :=
  (m.feed input).2.toOption.map fun _ => input

/-- The inputs of a run that were not refused. -/
def history (m : Debounce σ) (inputs : List σ) : List σ :=
  Run.collect after taken? m inputs

section Feed

variable {m : Debounce σ} {input : σ}

theorem feed_here (here : m.current = some input) :
    m.feed input = ({ m with pending := none }, .ok none) :=
  if_pos here

theorem feed_unknown (away : m.current ≠ some input) (unknown : m.needed? input = none) :
    m.feed input = (m, .error (.unknownState input)) := by
  simp only [feed, if_neg away, unknown]

theorem feed_full {needed : Nat} (away : m.current ≠ some input)
    (h : m.needed? input = some needed) (full : needed ≤ 1) :
    m.feed input =
      ({ m with current := some input, pending := none }, .ok (some ⟨m.current, input⟩)) := by
  simp only [feed, if_neg away, h, if_pos full]

theorem feed_short {needed : Nat} (away : m.current ≠ some input)
    (h : m.needed? input = some needed) (short : ¬needed ≤ 1) :
    m.feed input = ({ m with pending := some ⟨input, needed - 1⟩ }, .ok none) := by
  simp only [feed, if_neg away, h, if_neg short]

end Feed

/-- A machine refuses an input as a whole, keeps its state, or moves to the input. -/
theorem feed_cases (m : Debounce σ) (input : σ) :
    (∃ e, m.feed input = (m, .error e)) ∨
    (∃ next, m.feed input = (next, .ok none) ∧ next.current = m.current) ∨
    ∃ next, m.feed input = (next, .ok (some ⟨m.current, input⟩)) ∧ m.current ≠ some input ∧
      next.current = some input := by
  by_cases here : m.current = some input
  · exact .inr (.inl ⟨_, feed_here here, rfl⟩)
  · cases h : m.needed? input with
    | none => exact .inl ⟨_, feed_unknown here h⟩
    | some needed =>
        by_cases full : needed ≤ 1
        · exact .inr (.inr ⟨_, feed_full here h full, here, rfl⟩)
        · exact .inr (.inl ⟨_, feed_short here h full, rfl⟩)

theorem feed_of_error {m : Debounce σ} {input : σ} {e : ConfigError σ}
    (refused : (m.feed input).2 = .error e) : (m.feed input).1 = m := by
  obtain ⟨e, h⟩ | ⟨next, h, -⟩ | ⟨next, h, -⟩ := m.feed_cases input <;> simp [h] at refused ⊢

theorem feed_moved_iff {m : Debounce σ} {input : σ} {t : Transition σ} :
    (m.feed input).2 = .ok (some t) ↔
      (m.feed input).1.current ≠ m.current ∧ t.before = m.current ∧
        (m.feed input).1.current = some t.after := by
  obtain ⟨e, h⟩ | ⟨next, h, same⟩ | ⟨next, h, away, arrived⟩ := m.feed_cases input
  · simp [h]
  · simp [h, same]
  · obtain ⟨before, after⟩ := t
    simp only [h, arrived, Except.ok.injEq, Option.some_inj, Transition.mk.injEq]
    constructor
    · rintro ⟨rfl, rfl⟩
      exact ⟨away.symm, rfl, rfl⟩
    · rintro ⟨-, rfl, rfl⟩
      exact ⟨rfl, rfl⟩

theorem count?_pos {m : Debounce σ} : Positive m.count? := by
  intro s n h
  obtain ⟨spec, -, rfl⟩ := Option.map_eq_some_iff.1 h
  exact spec.count_pos

theorem count?_eq_none_iff {m : Debounce σ} {s : σ} :
    m.count? s = none ↔ ∀ spec ∈ m.specs, spec.state ≠ s := by
  simp [count?]

/-- What is waited for in a state after a history: the last entry, if it is another state. -/
def awaited (counts : σ → Option Nat) (current : Option σ) (history : List σ) :
    Option (Pending σ) :=
  match history.getLast? with
  | none => none
  | some t =>
    if current = some t then none else (counts t).map fun n => ⟨t, n - trailing t history⟩

/-- A machine that waits for nothing yet, in no state or in a declared one. -/
structure Fresh (m : Debounce σ) : Prop where
  idle : m.pending = none
  declared : ∀ s, m.current = some s → m.count? s ≠ none

/-- All of a machine is read off the history that it has taken since its start. -/
structure Follows (start m : Debounce σ) (history : List σ) : Prop where
  specs : m.specs = start.specs
  known : ∀ t ∈ history, start.count? t ≠ none
  current : m.current = (settled start.count? history).or start.current
  pending : m.pending = awaited start.count? m.current history

theorem Fresh.follows {start : Debounce σ} (fresh : Fresh start) : Follows start start [] where
  specs := rfl
  known := by simp
  current := rfl
  pending := fresh.idle

variable {start m : Debounce σ} {history : List σ} {input : σ}

theorem Follows.count? (h : Follows start m history) : m.count? = start.count? := by
  funext s
  simp only [Debounce.count?, h.specs]

theorem Follows.declared (fresh : Fresh start) (h : Follows start m history)
    (here : m.current = some input) : start.count? input ≠ none := by
  rw [h.current] at here
  cases settle : settled start.count? history with
  | none => exact fresh.declared input (by simpa only [settle, Option.none_or] using here)
  | some s =>
      obtain rfl : s = input := by simpa only [settle, Option.some_or, Option.some_inj] using here
      exact counts_of_settled settle

theorem Follows.needed? (h : Follows start m history) (away : m.current ≠ some input) :
    m.needed? input = (start.count? input).map fun n => n - trailing input history := by
  have anew : history.getLast? ≠ some input →
      m.count? input = (start.count? input).map fun n => n - trailing input history := by
    intro other
    simp only [h.count?, trailing_eq_zero other, Nat.sub_zero, Option.map_id']
  rw [Debounce.needed?, h.pending, awaited]
  cases last : history.getLast? with
  | none => exact anew (by simp [last])
  | some t =>
      dsimp only
      by_cases same : t = input
      · subst same
        rw [if_neg away]
        cases count : start.count? t <;> simp [h.count?, count]
      · rw [anew (by simpa only [last, ne_eq, Option.some_inj] using same)]
        by_cases here : m.current = some t
        · rw [if_pos here]
        · rw [if_neg here]
          cases start.count? t with
          | none => rfl
          | some k => exact if_neg same

theorem Follows.feed_unknown (fresh : Fresh start) (h : Follows start m history)
    (unknown : start.count? input = none) : m.feed input = (m, .error (.unknownState input)) := by
  have away : m.current ≠ some input := fun here => h.declared fresh here unknown
  exact Debounce.feed_unknown away (by rw [h.needed? away, unknown, Option.map_none])

theorem Follows.feed_ok (h : Follows start m history) {n : Nat}
    (count : start.count? input = some n) :
    ∃ next moved, m.feed input = (next, .ok moved) ∧ Follows start next (history ++ [input]) := by
  have closed : closing start.count? (history ++ [input]) =
      if n ≤ trailing input history + 1 then some input else none := by
    simp [closing_concat, count]
  have known : ∀ t ∈ history ++ [input], start.count? t ≠ none := by
    intro t member
    rcases List.mem_append.1 member with member | member
    · exact h.known t member
    · simp [List.mem_singleton.1 member, count]
  by_cases here : m.current = some input
  · refine ⟨_, _, feed_here here, h.specs, known, ?_, ?_⟩
    · rw [settled_concat, closed]
      split
      · exact here
      · exact h.current
    · simp [awaited, here]
  · have needed : m.needed? input = some (n - trailing input history) := by
      rw [h.needed? here, count, Option.map_some]
    by_cases full : n ≤ trailing input history + 1
    · refine ⟨_, _, feed_full here needed (by omega), h.specs, known, ?_, ?_⟩
      · simp [settled_concat, closed, full]
      · simp [awaited]
    · refine ⟨_, _, feed_short here needed (by omega), h.specs, known, ?_, ?_⟩
      · simpa [settled_concat, closed, full] using h.current
      · simp [awaited, here, count, trailing_concat_self, Nat.sub_sub]

theorem Follows.feed_error_iff (fresh : Fresh start) (h : Follows start m history)
    {e : ConfigError σ} :
    (m.feed input).2 = .error e ↔ e = .unknownState input ∧ start.count? input = none := by
  cases count : start.count? input with
  | none =>
      rw [h.feed_unknown fresh count]
      simp [eq_comm]
  | some n =>
      obtain ⟨next, moved, accepted, -⟩ := h.feed_ok count
      simp [accepted]

theorem Follows.taken?_eq (fresh : Fresh start) (follows : Follows start m history) :
    m.taken? input = (start.count? input).map fun _ => input := by
  rw [taken?]
  cases count : start.count? input with
  | none =>
      rw [follows.feed_unknown fresh count]
      rfl
  | some n =>
      obtain ⟨next, moved, fed, -⟩ := follows.feed_ok count
      rw [fed]
      rfl

theorem Follows.pending_some (h : Follows start m history) {t : σ}
    (last : history.getLast? = some t) (away : m.current ≠ some t) :
    ∃ n, start.count? t = some n ∧ m.pending = some ⟨t, n - trailing t history⟩ ∧
      1 ≤ n - trailing t history ∧ n - trailing t history < n := by
  obtain ⟨n, count⟩ := Option.ne_none_iff_exists'.1 (h.known t (List.mem_of_getLast? last))
  have short : ¬n ≤ trailing t history := by
    intro full
    have closed := closing_eq_some_iff.2 ⟨last, n, count, full⟩
    exact away (by rw [h.current, settled_of_closing closed, Option.some_or])
  have seen : 0 < trailing t history := trailing_pos last
  refine ⟨n, count, ?_, by omega, by omega⟩
  simp only [h.pending, awaited, last, if_neg away, count, Option.map_some]

theorem Follows.pending_eq_none_iff (h : Follows start m history) :
    m.pending = none ↔ history = [] ∨ history.getLast? = m.current := by
  cases last : history.getLast? with
  | none =>
      have empty : history = [] := List.getLast?_eq_none_iff.1 last
      simp [h.pending, awaited, empty]
  | some t =>
      have nonempty : history ≠ [] := by
        rintro rfl
        simp at last
      by_cases here : m.current = some t
      · simp [h.pending, awaited, last, here]
      · obtain ⟨n, -, waiting, -⟩ := h.pending_some last here
        simp [waiting, nonempty, eq_comm, here]

theorem run_concat (m : Debounce σ) (inputs : List σ) (input : σ) :
    m.run (inputs ++ [input]) = (m.run inputs).after input :=
  List.foldl_concat after m input inputs

theorem history_concat (m : Debounce σ) (inputs : List σ) (input : σ) :
    m.history (inputs ++ [input]) =
      m.history inputs ++ ((m.run inputs).taken? input).toList :=
  Run.collect_concat after taken? m inputs input

theorem Fresh.follows_run {start : Debounce σ} (fresh : Fresh start) (inputs : List σ) :
    Follows start (start.run inputs) (start.history inputs) := by
  induction inputs using List.reverseRecOn with
  | nil => exact fresh.follows
  | append_singleton inputs input ih =>
      rw [run_concat, history_concat]
      cases count : start.count? input with
      | none =>
          have refused := ih.feed_unknown fresh count
          simpa [after, taken?, refused, Except.toOption] using ih
      | some n =>
          obtain ⟨next, moved, accepted, follows⟩ := ih.feed_ok count
          simpa [after, taken?, accepted, Except.toOption] using follows

theorem Fresh.history_eq_filter {start : Debounce σ} (fresh : Fresh start) (inputs : List σ) :
    start.history inputs = inputs.filter fun s => (start.count? s).isSome := by
  induction inputs using List.reverseRecOn with
  | nil => rfl
  | append_singleton inputs input ih =>
      rw [history_concat, ih, (fresh.follows_run inputs).taken?_eq fresh, List.filter_append]
      cases count : start.count? input with
      | none => simp [count]
      | some n => simp [count]

omit [DecidableEq σ] in
theorem new_eq_ok_iff {specs : List (StateSpec σ)} {m : Debounce σ} :
    Debounce.new specs = .ok m ↔
      ∃ spec rest, specs = spec :: rest ∧ m = ⟨specs, some spec.state, none⟩ := by
  cases specs with
  | nil => simp [Debounce.new]
  | cons spec rest => simp [Debounce.new, eq_comm]

theorem fresh_of_new {specs : List (StateSpec σ)} {made start : Debounce σ}
    (new : Debounce.new specs = .ok made)
    (started : start = made ∨ start = made.indeterminate) : Fresh start ∧ start.specs = specs := by
  obtain ⟨spec, rest, rfl, rfl⟩ := new_eq_ok_iff.1 new
  rcases started with rfl | rfl
  · refine ⟨⟨rfl, fun s here => ?_⟩, rfl⟩
    obtain rfl : spec.state = s := Option.some_inj.1 here
    simp [Debounce.count?]
  · exact ⟨⟨rfl, fun s here => nomatch here⟩, rfl⟩

/-- The debouncing law: state, transitions, waiting and refusals of a machine are functions of the
    history of the inputs that it has taken. -/
theorem debounced_by_history {specs : List (StateSpec σ)} {made start : Debounce σ}
    (new : Debounce.new specs = .ok made)
    (started : start = made ∨ start = made.indeterminate) (inputs : List σ) :
    let now := start.run inputs
    let seen := start.history inputs
    (∀ s, Latest start.count? seen s → now.current = some s) ∧
    ((∀ s, ¬Latest start.count? seen s) → now.current = start.current) ∧
    (now.pending = none ↔ seen = [] ∨ seen.getLast? = now.current) ∧
    (∀ t, seen.getLast? = some t → now.current ≠ some t →
      ∃ n, start.count? t = some n ∧ now.pending = some ⟨t, n - trailing t seen⟩ ∧
        1 ≤ n - trailing t seen ∧ n - trailing t seen < n) ∧
    (∀ input e, (now.feed input).2 = .error e ↔
      e = .unknownState input ∧ ∀ spec ∈ specs, spec.state ≠ input) ∧
    (∀ input e, (now.feed input).2 = .error e → (now.feed input).1 = now) ∧
    ∀ input t, (now.feed input).2 = .ok (some t) ↔
      (now.feed input).1.current ≠ now.current ∧ t.before = now.current ∧
        (now.feed input).1.current = some t.after := by
  obtain ⟨fresh, rfl⟩ := fresh_of_new new started
  have follows := fresh.follows_run inputs
  refine ⟨?_, ?_, follows.pending_eq_none_iff, fun t => follows.pending_some, ?_, ?_, ?_⟩
  · intro s latest
    rw [follows.current, (settled_eq_some_iff count?_pos).2 latest, Option.some_or]
  · intro unsettled
    have settle : settled start.count? (start.history inputs) = none :=
      Option.eq_none_iff_forall_ne_some.2 fun s settle =>
        unsettled s ((settled_eq_some_iff count?_pos).1 settle)
    rw [follows.current, settle, Option.none_or]
  · intro input e
    rw [follows.feed_error_iff fresh, count?_eq_none_iff]
  · intro input e refused
    exact feed_of_error refused
  · intro input t
    exact feed_moved_iff

/-- An unknown state in the middle of a run does not interrupt it. -/
theorem debounced_by_history_uninterrupted :
    let specs : List (StateSpec Nat) := [.once 1, ⟨2, 3, by decide⟩, ⟨2, 7, by decide⟩]
    let start : Debounce Nat := ⟨specs, some 1, none⟩
    Debounce.new specs = .ok start ∧ (start.run [2, 2, 9]).pending = some ⟨2, 1⟩ ∧
      (start.run [2, 2, 9, 2]).current = some 2 := by
  intro specs start
  have new : Debounce.new specs = .ok start := rfl
  refine ⟨new, ?_, ?_⟩
  · obtain ⟨n, count, waiting, -⟩ :=
      (debounced_by_history new (.inl rfl) [2, 2, 9]).2.2.2.1 2 (by decide) (by decide)
    obtain rfl : 3 = n := Option.some_inj.1 count
    exact waiting
  · exact (debounced_by_history new (.inl rfl) [2, 2, 9, 2]).1 2
      ⟨[], ⟨3, [], rfl, by decide⟩, fun _ _ _ => Nat.zero_le _⟩

end AlertEngine.Debounce
