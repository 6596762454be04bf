/-! # Runs and scans

A machine is run by folding its next-state function over its inputs. What it puts out on the way is
collected beside that, each output read off the state that the machine is in at that moment. A scan
goes through a list from left to right, passes over entries that decide nothing, and stops at the
first one that does.
-/

namespace AlertEngine

namespace Run

variable {state input output : Type} (next : state → input → state)
  (out : state → input → Option output)

/-- What is put out on the inputs of a run, in order. -/
def collect (s : state) : List input → List output
  | [] => []
  | i :: rest => (out s i).toList ++ collect (next s i) rest

@[simp] theorem collect_nil (s : state) : collect next out s [] = [] := rfl

theorem collect_append (s : state) (front back : List input) :
    collect next out s (front ++ back) =
      collect next out s front ++ collect next out (front.foldl next s) back := by
  induction front generalizing s with
  | nil => rfl
  | cons i rest ih => simp only [List.cons_append, collect, List.foldl_cons, ih, List.append_assoc]

theorem collect_concat (s : state) (inputs : List input) (i : input) :
    collect next out s (inputs ++ [i]) =
      collect next out s inputs ++ (out (inputs.foldl next s) i).toList := by
  simp only [collect_append, collect, List.append_nil]

end Run

variable {α : Type} {passed : α → Prop}

/-- The scan of a list comes to this entry: all entries in front of it are passed over. -/
def Reached (passed : α → Prop) (entries : List α) (entry : α) : Prop :=
  ∃ front back, entries = front ++ entry :: back ∧ ∀ earlier ∈ front, passed earlier

theorem not_reached_nil {entry : α} : ¬Reached passed [] entry := by
  rintro ⟨front, back, split, -⟩
  simp at split

theorem reached_cons_iff {first entry : α} {rest : List α} :
    Reached passed (first :: rest) entry ↔
      entry = first ∨ passed first ∧ Reached passed rest entry := by
  constructor
  · rintro ⟨front, back, split, skipped⟩
    cases front with
    | nil => exact .inl (List.cons.inj split).1.symm
    | cons head front =>
        obtain ⟨rfl, behind⟩ := List.cons.inj split
        exact .inr ⟨skipped first List.mem_cons_self, front, back, behind,
          fun earlier member => skipped earlier (List.mem_cons_of_mem first member)⟩
  · rintro (rfl | ⟨skip, front, back, rfl, before⟩)
    · exact ⟨[], rest, rfl, nofun⟩
    · exact ⟨first :: front, back, rfl, List.forall_mem_cons.2 ⟨skip, before⟩⟩

theorem Reached.mem {entries : List α} {entry : α} (reached : Reached passed entries entry) :
    entry ∈ entries := by
  obtain ⟨front, back, rfl, -⟩ := reached
  exact List.mem_append_right front List.mem_cons_self

theorem Reached.unique {entries : List α} {entry other : α}
    (reached : Reached passed entries entry) (stops : ¬passed entry)
    (reaches : Reached passed entries other) (stop : ¬passed other) : entry = other := by
  induction entries with
  | nil => exact absurd reached not_reached_nil
  | cons first rest ih =>
      rcases reached_cons_iff.1 reached with rfl | ⟨skip, behind⟩
      · rcases reached_cons_iff.1 reaches with rfl | ⟨skip, -⟩
        · rfl
        · exact absurd skip stops
      · rcases reached_cons_iff.1 reaches with rfl | ⟨-, further⟩
        · exact absurd skip stop
        · exact ih behind further

end AlertEngine
