import AlertEngine.Proofs.Debouncing

/-! # Higher counts

Of two machines with the same states, the one with the higher counts moves more slowly. Where it
moves to a state, the other one has seen a block of that state as well and is in it. So whenever
the two are in different states, the quick one has moved at least once more than the slow one.
-/

namespace AlertEngine.Debounce

open History

variable {σ : Type} [DecidableEq σ]

/-- The move that a machine makes on an input, if it makes one. -/
def move? (m : Debounce σ) (input : σ) : Option (Transition σ) :=
  (m.feed input).2.toOption.join

/-- The moves of a run, in order. -/
def moves (m : Debounce σ) (inputs : List σ) : List (Transition σ) :=
  Run.collect after move? m inputs

theorem moves_concat (m : Debounce σ) (inputs : List σ) (input : σ) :
    m.moves (inputs ++ [input]) = m.moves inputs ++ ((m.run inputs).move? input).toList :=
  Run.collect_concat after move? m inputs input

section Steps

variable {m : Debounce σ} {input : σ}

theorem move?_eq_some_iff {t : Transition σ} :
    m.move? input = some t ↔ (m.feed input).2 = .ok (some t) := by
  rw [move?]
  cases (m.feed input).2 with
  | error e => simp [Except.toOption]
  | ok moved => simp [Except.toOption]

theorem move?_cases (m : Debounce σ) (input : σ) :
    (m.move? input = none ∧ (m.after input).current = m.current) ∨
    (m.move? input = some ⟨m.current, input⟩ ∧ m.current ≠ some input ∧
      (m.after input).current = some input) := by
  obtain ⟨e, fed⟩ | ⟨next, fed, same⟩ | ⟨next, fed, away, arrived⟩ := m.feed_cases input
  · left
    simp [move?, after, fed, Except.toOption]
  · left
    simpa [move?, after, fed, Except.toOption] using same
  · right
    simpa [move?, after, fed, Except.toOption, arrived] using away

variable {start : Debounce σ} {history : List σ}

theorem Follows.closing_of_move (fresh : Fresh start) (follows : Follows start m history)
    {t : Transition σ} (moved : m.move? input = some t) :
    t.after = input ∧ closing start.count? (history ++ [input]) = some input := by
  obtain ⟨still, -⟩ | ⟨here, away, arrived⟩ := m.move?_cases input
  · rw [still] at moved
    cases moved
  · rw [here] at moved
    cases moved
    refine ⟨rfl, ?_⟩
    cases count : start.count? input with
    | none =>
        have refused := follows.feed_unknown fresh count
        simp [move?, refused, Except.toOption] at here
    | some n =>
        obtain ⟨next, _, fed, further⟩ := follows.feed_ok count
        have current : (m.after input).current = next.current := by rw [after, fed]
        rw [current, further.current, settled_concat] at arrived
        cases closed : closing start.count? (history ++ [input]) with
        | some s =>
            obtain ⟨last, -⟩ := closing_eq_some_iff.1 closed
            rw [List.getLast?_concat] at last
            exact last.symm
        | none =>
            rw [closed, Option.none_or, ← follows.current] at arrived
            exact absurd arrived away

theorem Follows.current_of_closing (follows : Follows start m history) {s : σ}
    (closed : closing start.count? history = some s) : m.current = some s := by
  rw [follows.current, settled_of_closing closed, Option.some_or]

end Steps

/-- Two machines with the same states that start in the same one. The second one never counts
    less. -/
structure Slower (start start' : Debounce σ) : Prop where
  known : ∀ s, start'.count? s = none ↔ start.count? s = none
  higher : ∀ {s n n'}, start.count? s = some n → start'.count? s = some n' → n ≤ n'
  current : start'.current = start.current

section Pairs

variable {start start' : Debounce σ} (slower : Slower start start') (fresh : Fresh start)
  (fresh' : Fresh start')

include slower

theorem Slower.closing {history : List σ} {s : σ}
    (closed : closing start'.count? history = some s) : closing start.count? history = some s := by
  obtain ⟨last, n', count', long⟩ := closing_eq_some_iff.1 closed
  have known : start.count? s ≠ none := by
    rw [Ne, ← slower.known, count']
    exact Option.some_ne_none n'
  obtain ⟨n, count⟩ := Option.ne_none_iff_exists'.1 known
  exact closing_eq_some_iff.2 ⟨last, n, count, (slower.higher count count').trans long⟩

include fresh fresh'

theorem Slower.history_eq (inputs : List σ) : start'.history inputs = start.history inputs := by
  have declared : (fun s => (start'.count? s).isSome) = fun s => (start.count? s).isSome := by
    funext s
    rw [Bool.eq_iff_iff, ← Option.ne_none_iff_isSome, ← Option.ne_none_iff_isSome]
    exact not_congr (slower.known s)
  rw [fresh.history_eq_filter, fresh'.history_eq_filter, declared]

theorem Slower.current_of_move {inputs : List σ} {input : σ} {t : Transition σ}
    (moved : (start'.run inputs).move? input = some t) :
    ((start.run inputs).after input).current = some t.after := by
  have follows' := fresh'.follows_run inputs
  rw [slower.history_eq fresh fresh'] at follows'
  obtain ⟨rfl, closed'⟩ := follows'.closing_of_move fresh' moved
  have closed := slower.closing closed'
  have taken : start.history (inputs ++ [t.after]) = start.history inputs ++ [t.after] := by
    obtain ⟨-, n, count, -⟩ := closing_eq_some_iff.1 closed
    simp [fresh.history_eq_filter, count]
  have follows := fresh.follows_run (inputs ++ [t.after])
  rw [taken, run_concat] at follows
  exact follows.current_of_closing closed

/-- The quick machine has moved as often as the slow one, and once more if they are apart. -/
theorem Slower.moves_le (inputs : List σ) :
    (start'.moves inputs).length +
        (if (start'.run inputs).current = (start.run inputs).current then 0 else 1) ≤
      (start.moves inputs).length := by
  induction inputs using List.reverseRecOn with
  | nil => simp [moves, run, slower.current]
  | append_singleton inputs input ih =>
      rw [moves_concat, moves_concat, run_concat, run_concat, List.length_append,
        List.length_append]
      obtain ⟨still', same'⟩ | ⟨moved', away', arrived'⟩ := (start'.run inputs).move?_cases input
      · obtain ⟨still, same⟩ | ⟨moved, -, -⟩ := (start.run inputs).move?_cases input
        · simpa [still', still, same', same] using ih
        · simp only [still', moved, Option.toList_none, Option.toList_some, List.length_nil,
            List.length_singleton]
          split <;> omega
      · have together := slower.current_of_move fresh fresh' moved'
        obtain ⟨still, same⟩ | ⟨moved, away, -⟩ := (start.run inputs).move?_cases input
        · have apart : (start'.run inputs).current ≠ (start.run inputs).current := by
            rw [← same, together]
            exact away'
          rw [if_neg apart] at ih
          simpa [moved', still, arrived', together] using ih
        · rw [arrived', together, if_pos rfl, moved', moved]
          have behind : (start'.moves inputs).length ≤ (start.moves inputs).length := by omega
          simpa using behind

end Pairs

theorem count?_eq_none_iff_states {m : Debounce σ} {s : σ} :
    m.count? s = none ↔ s ∉ m.specs.map StateSpec.state := by
  rw [count?_eq_none_iff, List.mem_map]
  constructor
  · rintro unknown ⟨spec, member, same⟩
    exact unknown spec member same
  · intro unknown spec member same
    exact unknown ⟨spec, member, same⟩

/-- Machines that are started in the same way, in the first state or in none. -/
def StartedAlike (made made' start start' : Debounce σ) : Prop :=
  (start = made ∧ start' = made') ∨ (start = made.indeterminate ∧ start' = made'.indeterminate)

theorem StartedAlike.slower {specs specs' : List (StateSpec σ)}
    {made made' start start' : Debounce σ}
    (states : specs'.map StateSpec.state = specs.map StateSpec.state)
    (new : Debounce.new specs = .ok made) (new' : Debounce.new specs' = .ok made')
    (higher : ∀ s n n', made.count? s = some n → made'.count? s = some n' → n ≤ n')
    (alike : StartedAlike made made' start start') : Slower start start' := by
  obtain ⟨spec, rest, rfl, rfl⟩ := new_eq_ok_iff.1 new
  obtain ⟨spec', rest', rfl, rfl⟩ := new_eq_ok_iff.1 new'
  have first : spec'.state = spec.state := (List.cons.inj states).1
  rcases alike with ⟨rfl, rfl⟩ | ⟨rfl, rfl⟩
  · refine ⟨fun s => ?_, fun {s n n'} => higher s n n', congrArg some first⟩
    rw [count?_eq_none_iff_states, count?_eq_none_iff_states, states]
  · refine ⟨fun s => ?_, fun {s n n'} => higher s n n', rfl⟩
    rw [count?_eq_none_iff_states, count?_eq_none_iff_states]
    exact not_congr (iff_of_eq (congrArg (s ∈ ·) states))

/-- Raising the counts. Of two machines over the same states, started in the same way, the one with
    the higher counts makes no more moves on the same inputs, refused ones included, and where it
    does move to a state, the other one is in that state. -/
theorem fewer_moves_of_higher_counts {specs specs' : List (StateSpec σ)} (nonempty : specs ≠ [])
    (states : specs'.map StateSpec.state = specs.map StateSpec.state) :
    ∃ made made' : Debounce σ,
      Debounce.new specs = .ok made ∧ Debounce.new specs' = .ok made' ∧
      ((∀ s n n', made.count? s = some n → made'.count? s = some n' → n ≤ n') →
        ∀ start start', StartedAlike made made' start start' → ∀ inputs,
          (start'.moves inputs).length ≤ (start.moves inputs).length ∧
          ∀ input t, ((start'.run inputs).feed input).2 = .ok (some t) →
            ((start.run inputs).feed input).1.current = some t.after) := by
  obtain ⟨spec, rest, rfl⟩ := List.exists_cons_of_ne_nil nonempty
  have nonempty' : specs' ≠ [] := by
    rintro rfl
    cases states
  obtain ⟨spec', rest', rfl⟩ := List.exists_cons_of_ne_nil nonempty'
  have new : Debounce.new (spec :: rest) = .ok ⟨spec :: rest, some spec.state, none⟩ := rfl
  have new' : Debounce.new (spec' :: rest') = .ok ⟨spec' :: rest', some spec'.state, none⟩ := rfl
  refine ⟨_, _, new, new', fun higher start start' alike inputs => ?_⟩
  have slower := alike.slower states new new' higher
  obtain ⟨fresh, -⟩ := fresh_of_new new (alike.imp And.left And.left)
  obtain ⟨fresh', -⟩ := fresh_of_new new' (alike.imp And.right And.right)
  constructor
  · have ahead := slower.moves_le fresh fresh' inputs
    omega
  · intro input t moved
    exact slower.current_of_move fresh fresh' (move?_eq_some_iff.2 moved)

/-- A run that is too short for three in a row, and one that is not. -/
theorem fewer_moves_of_higher_counts_three_in_a_row :
    let quick : Debounce Nat := ⟨[.once 1, .once 2], some 1, none⟩
    let slow : Debounce Nat := ⟨[.once 1, ⟨2, 3, by decide⟩], some 1, none⟩
    let inputs := [2, 1, 2, 9, 2]
    (quick.moves inputs).length = 3 ∧ (slow.moves inputs).length ≤ 3 ∧
      ((slow.run inputs).feed 2).2 = .ok (some ⟨some 1, 2⟩) ∧
      ((quick.run inputs).feed 2).1.current = some 2 := by
  intro quick slow inputs
  obtain ⟨made, made', new, new', law⟩ :=
    @fewer_moves_of_higher_counts Nat _ quick.specs slow.specs (by decide) rfl
  obtain rfl : quick = made := Except.ok.inj new
  obtain rfl : slow = made' := Except.ok.inj new'
  have higher : ∀ s n n', quick.count? s = some n → slow.count? s = some n' → n ≤ n' := by
    intro s n n' count count'
    by_cases first : 1 = s
    · subst first
      cases count
      cases count'
      decide
    · by_cases second : 2 = s
      · subst second
        cases count
        cases count'
        decide
      · simp [quick, count?, StateSpec.once, first, second] at count
  obtain ⟨fewer, agree⟩ := law higher quick slow (.inl ⟨rfl, rfl⟩) inputs
  exact ⟨by decide, fewer.trans_eq (by decide), by decide, agree 2 ⟨some 1, 2⟩ (by decide)⟩

end AlertEngine.Debounce
