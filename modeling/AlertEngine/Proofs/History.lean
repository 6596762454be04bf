import Mathlib.Data.List.Induction
import Mathlib.Data.List.Infix

/-! # Settled histories

A history lists states in the order in which they were seen. Every state has a count, and that many
equal entries in a row are a block. A history is settled on the state of its latest block, whatever
stands behind it. Nothing here counts down: a block is found by looking at the whole history.
-/

namespace AlertEngine.History

variable {σ : Type}

/-- A full block of `s` in a history, with `later` behind it. -/
def Block (counts : σ → Option Nat) (history : List σ) (s : σ) (later : List σ) : Prop :=
  ∃ n earlier, counts s = some n ∧ history = earlier ++ List.replicate n s ++ later

/-- No block has less behind it than some block of `s`. -/
def Latest (counts : σ → Option Nat) (history : List σ) (s : σ) : Prop :=
  ∃ later, Block counts history s later ∧
    ∀ t behind, Block counts history t behind → later.length ≤ behind.length

/-- Counts are of at least one entry, so that a block is never empty. -/
def Positive (counts : σ → Option Nat) : Prop :=
  ∀ s n, counts s = some n → 0 < n

variable [DecidableEq σ]

/-- How many entries in a row are `s` at the end of a history. -/
def trailing (s : σ) (history : List σ) : Nat :=
  (history.reverse.takeWhile fun t => t = s).length

/-- The state of the block, if there is one, that ends a history. -/
def closing (counts : σ → Option Nat) (history : List σ) : Option σ :=
  history.getLast?.filter fun s => (counts s).any fun n => n ≤ trailing s history

/-- The state that a history is settled on: its longest beginning that ends in a block is the one
    that counts. -/
def settled (counts : σ → Option Nat) (history : List σ) : Option σ :=
  history.inits.reverse.findSome? (closing counts)

@[simp] theorem trailing_nil (s : σ) : trailing s [] = 0 := rfl

theorem trailing_concat_self (s : σ) (history : List σ) :
    trailing s (history ++ [s]) = trailing s history + 1 := by
  simp [trailing]

theorem trailing_concat_of_ne {s t : σ} (different : t ≠ s) (history : List σ) :
    trailing s (history ++ [t]) = 0 := by
  simp [trailing, different]

theorem trailing_eq_zero {s : σ} {history : List σ} (h : history.getLast? ≠ some s) :
    trailing s history = 0 := by
  cases history using List.reverseRecOn with
  | nil => rfl
  | append_singleton earlier t =>
      have different : t ≠ s := fun same => h (by simp [same])
      exact trailing_concat_of_ne different earlier

theorem trailing_pos {s : σ} {history : List σ} (h : history.getLast? = some s) :
    0 < trailing s history := by
  cases history using List.reverseRecOn with
  | nil => simp at h
  | append_singleton earlier t =>
      obtain rfl : t = s := by simpa using h
      rw [trailing_concat_self]
      exact Nat.succ_pos _

theorem le_trailing_iff {n : Nat} {s : σ} {history : List σ} :
    n ≤ trailing s history ↔ ∃ earlier, history = earlier ++ List.replicate n s := by
  induction n generalizing history with
  | zero => simp
  | succ n ih =>
      cases history using List.reverseRecOn with
      | nil => simp [List.replicate_succ]
      | append_singleton earlier t =>
          by_cases same : t = s
          · subst same
            simp only [trailing_concat_self, Nat.add_le_add_iff_right, ih,
              List.replicate_succ', ← List.append_assoc, List.append_cancel_right_eq]
          · rw [trailing_concat_of_ne same]
            constructor
            · intro h
              omega
            · rintro ⟨front, h⟩
              rw [List.replicate_succ', ← List.append_assoc] at h
              exact absurd (List.append_inj_right' h rfl) (by simpa using same)

@[simp] theorem closing_nil (counts : σ → Option Nat) : closing counts [] = none := rfl

theorem closing_concat (counts : σ → Option Nat) (history : List σ) (s : σ) :
    closing counts (history ++ [s]) =
      if (counts s).any fun n => n ≤ trailing s history + 1 then some s else none := by
  simp [closing, trailing_concat_self, Option.filter]

theorem settled_nil (counts : σ → Option Nat) : settled counts [] = none := rfl

theorem settled_concat (counts : σ → Option Nat) (history : List σ) (s : σ) :
    settled counts (history ++ [s]) =
      (closing counts (history ++ [s])).or (settled counts history) := by
  simp only [settled, List.inits_append, List.inits, List.tail_cons, List.map_cons, List.map_nil,
    List.reverse_append, List.reverse_cons, List.reverse_nil, List.nil_append,
    List.cons_append, List.findSome?_cons]
  cases closing counts (history ++ [s]) <;> rfl

theorem closing_eq_some_iff {counts : σ → Option Nat} {history : List σ} {s : σ} :
    closing counts history = some s ↔
      history.getLast? = some s ∧ ∃ n, counts s = some n ∧ n ≤ trailing s history := by
  simp [closing, Option.filter_eq_some_iff, Option.any_eq_true]

theorem settled_of_closing {counts : σ → Option Nat} {history : List σ} {s : σ}
    (h : closing counts history = some s) : settled counts history = some s := by
  cases history using List.reverseRecOn with
  | nil => simp at h
  | append_singleton earlier t => rw [settled_concat, h, Option.some_or]

theorem counts_of_settled {counts : σ → Option Nat} {history : List σ} {s : σ}
    (h : settled counts history = some s) : counts s ≠ none := by
  obtain ⟨beginning, -, closed⟩ := List.exists_of_findSome?_eq_some h
  obtain ⟨-, n, hn, -⟩ := closing_eq_some_iff.1 closed
  simp [hn]

theorem block_nil_iff {counts : σ → Option Nat} (positive : Positive counts) {history : List σ}
    {s : σ} : Block counts history s [] ↔ closing counts history = some s := by
  rw [closing_eq_some_iff]
  constructor
  · rintro ⟨n, earlier, hn, h⟩
    rw [List.append_nil] at h
    obtain ⟨k, rfl⟩ := Nat.exists_eq_succ_of_ne_zero (positive s n hn).ne'
    refine ⟨?_, _, hn, le_trailing_iff.2 ⟨earlier, h⟩⟩
    rw [h, List.replicate_succ', ← List.append_assoc, List.getLast?_concat]
  · rintro ⟨-, n, hn, long⟩
    obtain ⟨earlier, h⟩ := le_trailing_iff.1 long
    exact ⟨n, earlier, hn, by rw [List.append_nil, h]⟩

omit [DecidableEq σ] in
theorem block_concat_iff {counts : σ → Option Nat} {history later : List σ} {s t u : σ} :
    Block counts (history ++ [t]) s (later ++ [u]) ↔ u = t ∧ Block counts history s later := by
  constructor
  · rintro ⟨n, earlier, hn, h⟩
    rw [← List.append_assoc] at h
    obtain ⟨front, last⟩ := List.append_inj' h rfl
    exact ⟨(List.singleton_inj.1 last).symm, n, earlier, hn, front⟩
  · rintro ⟨rfl, n, earlier, hn, rfl⟩
    exact ⟨n, earlier, hn, by simp only [List.append_assoc]⟩

theorem latest_iff_of_closing {counts : σ → Option Nat} (positive : Positive counts)
    {history : List σ} {s t : σ} (h : closing counts history = some t) :
    Latest counts history s ↔ t = s := by
  constructor
  · rintro ⟨later, block, least⟩
    have short := least t [] ((block_nil_iff positive).2 h)
    obtain rfl : later = [] := List.eq_nil_of_length_eq_zero (Nat.le_zero.1 short)
    rw [block_nil_iff positive, h] at block
    exact Option.some_inj.1 block
  · rintro rfl
    exact ⟨[], (block_nil_iff positive).2 h, fun _ _ _ => Nat.zero_le _⟩

theorem latest_concat_of_open {counts : σ → Option Nat} (positive : Positive counts)
    {history : List σ} {s t : σ} (h : closing counts (history ++ [t]) = none) :
    Latest counts (history ++ [t]) s ↔ Latest counts history s := by
  have inside : ∀ {u later}, Block counts (history ++ [t]) u later →
      ∃ front, later = front ++ [t] ∧ Block counts history u front := by
    intro u later block
    cases later using List.reverseRecOn with
    | nil => simp [block_nil_iff positive, h] at block
    | append_singleton front v =>
        obtain ⟨rfl, inner⟩ := block_concat_iff.1 block
        exact ⟨front, rfl, inner⟩
  constructor
  · rintro ⟨later, block, least⟩
    obtain ⟨front, rfl, inner⟩ := inside block
    refine ⟨front, inner, fun u behind other => ?_⟩
    simpa using least u (behind ++ [t]) (block_concat_iff.2 ⟨rfl, other⟩)
  · rintro ⟨front, block, least⟩
    refine ⟨front ++ [t], block_concat_iff.2 ⟨rfl, block⟩, fun u behind other => ?_⟩
    obtain ⟨rest, rfl, inner⟩ := inside other
    simpa using least u rest inner

/-- Reading a history from its end finds the block that no other block comes after. -/
theorem settled_eq_some_iff {counts : σ → Option Nat} (positive : Positive counts)
    {history : List σ} {s : σ} : settled counts history = some s ↔ Latest counts history s := by
  induction history using List.reverseRecOn with
  | nil =>
      simp only [settled_nil, reduceCtorEq, false_iff]
      rintro ⟨later, ⟨n, earlier, hn, h⟩, -⟩
      have := positive s n hn
      simp at h
      omega
  | append_singleton history t ih =>
      rw [settled_concat]
      cases h : closing counts (history ++ [t]) with
      | none => rw [Option.none_or, ih, latest_concat_of_open positive h]
      | some u => rw [Option.some_or, Option.some_inj, latest_iff_of_closing positive h]

end AlertEngine.History
