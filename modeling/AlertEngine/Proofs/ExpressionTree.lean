import AlertEngine.Expression.Evaluation
import Mathlib.Data.List.Basic

/-! # Expressions as trees

What an expression says is made up of its comparisons. With a truth value for each of them it has
one itself, which is not affected by the order of parts, by parts that are there twice, or by
junctions that stand as parts of junctions of the same kind.
-/

namespace AlertEngine.Expression

/-- Induction on a tree: what holds of all parts holds of the junction. -/
@[elab_as_elim]
theorem rec_parts {motive : Expression → Prop} (comparison : ∀ c, motive (.comparison c))
    (junction : ∀ j parts, (∀ part ∈ parts, motive part) → motive (.junction j parts)) :
    ∀ e, motive e
  | .comparison c => comparison c
  | .junction j parts => junction j parts fun part _ => rec_parts comparison junction part

mutual

/-- The comparisons of an expression from left to right. -/
def comparisons : Expression → List Comparison
  | .comparison c => [c]
  | .junction _ parts => comparisonsOfParts parts

def comparisonsOfParts : List Expression → List Comparison
  | [] => []
  | part :: rest => part.comparisons ++ comparisonsOfParts rest

end

theorem comparisonsOfParts_eq_flatMap (parts : List Expression) :
    comparisonsOfParts parts = parts.flatMap comparisons := by
  induction parts with
  | nil => rfl
  | cons part rest ih => rw [comparisonsOfParts, ih, List.flatMap_cons]

theorem mem_comparisons_junction {c : Comparison} {j : Junction} {parts : List Expression} :
    c ∈ (Expression.junction j parts).comparisons ↔ ∃ part ∈ parts, c ∈ part.comparisons := by
  rw [comparisons, comparisonsOfParts_eq_flatMap, List.mem_flatMap]

mutual

/-- Whether an expression holds, given which comparisons do. -/
def holds (truth : Comparison → Bool) : Expression → Bool
  | .comparison c => truth c
  | .junction .all parts => allHold truth parts
  | .junction .any parts => anyHolds truth parts

def allHold (truth : Comparison → Bool) : List Expression → Bool
  | [] => true
  | part :: rest => part.holds truth && allHold truth rest

def anyHolds (truth : Comparison → Bool) : List Expression → Bool
  | [] => false
  | part :: rest => part.holds truth || anyHolds truth rest

end

theorem holds_all (truth : Comparison → Bool) (parts : List Expression) :
    (Expression.junction .all parts).holds truth = parts.all (holds truth) := by
  rw [holds]
  induction parts with
  | nil => rfl
  | cons part rest ih => rw [allHold, ih, List.all_cons]

theorem holds_any (truth : Comparison → Bool) (parts : List Expression) :
    (Expression.junction .any parts).holds truth = parts.any (holds truth) := by
  rw [holds]
  induction parts with
  | nil => rfl
  | cons part rest ih => rw [anyHolds, ih, List.any_cons]

/-- Expressions that differ in the order of parts, in how often a part is there, and in junctions
    that are parts of junctions of the same kind, at any depth. -/
inductive Rearranged : Expression → Expression → Prop where
  | refl (e : Expression) : Rearranged e e
  | symm {e e' : Expression} : Rearranged e e' → Rearranged e' e
  | trans {e e' e'' : Expression} : Rearranged e e' → Rearranged e' e'' → Rearranged e e''
  | reorder (j : Junction) {parts other : List Expression} :
      parts.Perm other → Rearranged (.junction j parts) (.junction j other)
  | repeated (j : Junction) {part : Expression} {parts : List Expression} :
      part ∈ parts → Rearranged (.junction j parts) (.junction j (part :: parts))
  | flattened (j : Junction) (front inner back : List Expression) :
      Rearranged (.junction j (front ++ .junction j inner :: back))
        (.junction j (front ++ inner ++ back))
  | inside (j : Junction) (front back : List Expression) {part other : Expression} :
      Rearranged part other →
        Rearranged (.junction j (front ++ part :: back)) (.junction j (front ++ other :: back))

theorem Rearranged.holds_eq {e e' : Expression} (same : Rearranged e e')
    (truth : Comparison → Bool) : e'.holds truth = e.holds truth := by
  induction same with
  | refl e => rfl
  | symm _ ih => exact ih.symm
  | trans _ _ first second => exact second.trans first
  | reorder j moved =>
      cases j with
      | all => rw [holds_all, holds_all, moved.all_eq]
      | any => rw [holds_any, holds_any, moved.any_eq]
  | repeated j member =>
      cases j with
      | all =>
        rw [holds_all, holds_all, List.all_cons, Bool.and_eq_right_iff_imp]
        intro all
        exact List.all_eq_true.1 all _ member
      | any =>
        rw [holds_any, holds_any, List.any_cons, Bool.or_eq_right_iff_imp]
        intro one
        exact List.any_eq_true.2 ⟨_, member, one⟩
  | flattened j front inner back =>
      cases j with
      | all => simp only [holds_all, List.all_append, List.all_cons, Bool.and_assoc]
      | any => simp only [holds_any, List.any_append, List.any_cons, Bool.or_assoc]
  | inside j front back _ ih =>
      cases j with
      | all => simp only [holds_all, List.all_append, List.all_cons, ih]
      | any => simp only [holds_any, List.any_append, List.any_cons, ih]

theorem Rearranged.mem_comparisons_iff {e e' : Expression} (same : Rearranged e e')
    (c : Comparison) : c ∈ e'.comparisons ↔ c ∈ e.comparisons := by
  induction same with
  | refl e => exact Iff.rfl
  | symm _ ih => exact ih.symm
  | trans _ _ first second => exact second.trans first
  | reorder j moved => simp only [mem_comparisons_junction, moved.mem_iff]
  | repeated j member =>
      simp only [mem_comparisons_junction, List.exists_mem_cons_iff]
      exact or_iff_right_of_imp fun within => ⟨_, member, within⟩
  | flattened j front inner back =>
      simp only [mem_comparisons_junction, List.mem_append, List.mem_cons, or_and_right, exists_or,
        exists_eq_left, or_assoc]
  | inside j front back _ ih =>
      simp only [mem_comparisons_junction, List.mem_append, List.mem_cons, or_and_right, exists_or,
        exists_eq_left, ih]

end AlertEngine.Expression
