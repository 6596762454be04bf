import AlertEngine.Template
import Mathlib.Data.List.TakeWhile

/-! # Templates in one scan

A placeholder can stand anywhere in a template, and its name can look like the beginning of another
one. A scan takes the leftmost placeholder, puts the value of its metric in its place, and goes on
behind it. So the text in front of it stays as it is, and what is put in is not looked at again.
-/

namespace AlertEngine.Template

/-- A placeholder of a template, between the text in front of it and the text behind it. -/
structure Occurs (template front name behind : String) : Prop where
  split : template = front ++ "#\x7b" ++ name ++ "\x7d" ++ behind
  nonempty : name ≠ ""
  braceless : '\x7d' ∉ name.toList

/-- No placeholder has less in front of it. -/
structure Leftmost (template front name behind : String) : Prop
    extends Occurs template front name behind where
  least : ∀ {earlier other rest : String}, Occurs template earlier other rest →
    front.length ≤ earlier.length

/-- The names that a scan comes to, one placeholder behind the other. -/
inductive Scans : String → String → Prop where
  | here {template front name behind : String} :
      Leftmost template front name behind → Scans template name
  | behind {template front first behind name : String} :
      Leftmost template front first behind → Scans behind name → Scans template name

/-- The text that stands for a name: that of the metric, or the word for a missing one. -/
def shown (metrics : Keyed String Metric) (name : String) : String :=
  (metrics.get? name).elim "undefined" Metric.display

section Front

variable {text name behind : List Char}

theorem placeholder?_eq_some_iff :
    placeholder? text = some (name, behind) ↔
      text = '#' :: '\x7b' :: (name ++ '\x7d' :: behind) ∧ name ≠ [] ∧ '\x7d' ∉ name := by
  constructor
  · intro found
    unfold placeholder? at found
    split at found
    · next rest =>
      split at found
      · next c more d _ taken left =>
        obtain ⟨rfl, rfl⟩ := Prod.mk.inj (Option.some.inj found)
        have whole := List.takeWhile_append_dropWhile (p := (· ≠ '\x7d')) (l := rest)
        have close : d = '\x7d' := by
          have head := List.head?_dropWhile_not (· ≠ '\x7d') rest
          rw [left] at head
          simpa using head
        refine ⟨?_, List.cons_ne_nil _ _, ?_⟩
        · rw [← whole, taken, left, close]
        · intro here
          rw [← taken] at here
          simpa using List.mem_takeWhile_imp here
      · cases found
    · cases found
  · rintro ⟨rfl, nonempty, braceless⟩
    have inside : ∀ c ∈ name, decide (c ≠ '\x7d') = true := by
      intro c here
      exact decide_eq_true fun same => braceless (same ▸ here)
    cases name with
    | nil => exact absurd rfl nonempty
    | cons c more =>
        rw [placeholder?, List.takeWhile_append_of_pos inside, List.dropWhile_append_of_pos inside]
        simp

variable {value : List Char → List Char}

theorem fill_of_placeholder? (found : placeholder? text = some (name, behind)) :
    fill value text = value name ++ fill value behind := by
  rw [fill]
  split
  · next here =>
    rw [found] at here
    cases here
    rfl
  · next missing =>
    rw [found] at missing
    cases missing

theorem fill_cons {c : Char} (missing : placeholder? (c :: text) = none) :
    fill value (c :: text) = c :: fill value text := by
  rw [fill]
  split
  · next here =>
    rw [missing] at here
    cases here
  · rfl

theorem fill_nil : fill value [] = [] := by
  rw [fill]
  rfl

/-- What stands in front of a rest is kept if no placeholder begins in it. -/
theorem fill_append {front rest : List Char}
    (clear : ∀ skipped kept, front = skipped ++ kept → kept ≠ [] →
      placeholder? (kept ++ rest) = none) :
    fill value (front ++ rest) = front ++ fill value rest := by
  induction front with
  | nil => rfl
  | cons c front ih =>
      have here := clear [] (c :: front) rfl (List.cons_ne_nil c front)
      have further : ∀ skipped kept, front = skipped ++ kept → kept ≠ [] →
          placeholder? (kept ++ rest) = none := by
        intro skipped kept split
        exact clear (c :: skipped) kept (congrArg (c :: ·) split)
      rw [List.cons_append] at here ⊢
      rw [fill_cons here, ih further, List.cons_append]

end Front

section Templates

variable {template front name behind : String} {metrics : Keyed String Metric}

theorem occurs_iff :
    Occurs template front name behind ↔
      template.toList = front.toList ++ '#' :: '\x7b' :: (name.toList ++ '\x7d' :: behind.toList) ∧
        name.toList ≠ [] ∧ '\x7d' ∉ name.toList := by
  have split_iff : template = front ++ "#\x7b" ++ name ++ "\x7d" ++ behind ↔
      template.toList =
        front.toList ++ '#' :: '\x7b' :: (name.toList ++ '\x7d' :: behind.toList) := by
    rw [← String.toList_inj]
    simp
  constructor
  · rintro ⟨split, nonempty, braceless⟩
    exact ⟨split_iff.1 split, fun empty => nonempty (String.toList_eq_nil_iff.1 empty), braceless⟩
  · rintro ⟨split, nonempty, braceless⟩
    exact ⟨split_iff.2 split, fun empty => nonempty (String.toList_eq_nil_iff.2 empty), braceless⟩

theorem occurs_of_placeholder? {skipped text : List Char} {found : List Char × List Char}
    (split : template.toList = skipped ++ text) (begins : placeholder? text = some found) :
    Occurs template (String.ofList skipped) (String.ofList found.1) (String.ofList found.2) := by
  obtain ⟨rfl, nonempty, braceless⟩ := placeholder?_eq_some_iff.1 begins
  rw [occurs_iff]
  simp only [String.toList_ofList]
  exact ⟨split, nonempty, braceless⟩

theorem Occurs.length_lt (occurs : Occurs template front name behind) :
    behind.length < template.length := by
  obtain ⟨split, -, -⟩ := occurs_iff.1 occurs
  have lengths := congrArg List.length split
  simp only [String.length_toList, List.length_append, List.length_cons] at lengths
  omega

theorem Occurs.exists_leftmost (occurs : Occurs template front name behind) :
    ∃ front name behind, Leftmost template front name behind := by
  induction least : front.length using Nat.strong_induction_on generalizing front name behind with
  | _ n ih =>
      by_cases earlier : ∃ front' name' behind',
          Occurs template front' name' behind' ∧ front'.length < n
      · obtain ⟨front', name', behind', occurs', shorter⟩ := earlier
        exact ih _ shorter occurs' rfl
      · refine ⟨front, name, behind, occurs, fun other => ?_⟩
        by_contra longer
        exact earlier ⟨_, _, _, other, by omega⟩

theorem render_of_clear (clear : ∀ front name behind, ¬Occurs template front name behind) :
    render metrics template = template := by
  have kept : fill (valueText metrics) (template.toList ++ []) = template.toList ++ [] := by
    rw [fill_append, fill_nil]
    intro skipped text split _
    rw [List.append_nil, Option.eq_none_iff_forall_ne_some]
    intro found begins
    exact clear _ _ _ (occurs_of_placeholder? split begins)
  rw [List.append_nil] at kept
  rw [render, kept, String.ofList_toList]

theorem render_of_leftmost (leftmost : Leftmost template front name behind) :
    render metrics template = front ++ shown metrics name ++ render metrics behind := by
  obtain ⟨split, nonempty, braceless⟩ := occurs_iff.1 leftmost.toOccurs
  have found : placeholder? ('#' :: '\x7b' :: (name.toList ++ '\x7d' :: behind.toList)) =
      some (name.toList, behind.toList) :=
    placeholder?_eq_some_iff.2 ⟨rfl, nonempty, braceless⟩
  have clear : ∀ skipped kept, front.toList = skipped ++ kept → kept ≠ [] →
      placeholder? (kept ++ '#' :: '\x7b' :: (name.toList ++ '\x7d' :: behind.toList)) = none := by
    intro skipped kept before longer
    rw [Option.eq_none_iff_forall_ne_some]
    intro other begins
    rw [before, List.append_assoc] at split
    have least := leftmost.least (occurs_of_placeholder? split begins)
    have lengths := congrArg List.length before
    have positive := List.length_pos_iff.2 longer
    simp only [String.length_ofList, String.length_toList, List.length_append] at least lengths
    omega
  rw [← String.toList_inj, render, split, fill_append clear, fill_of_placeholder? found]
  simp [render, valueText, shown, undefined]

/-- Induction along a scan. -/
@[elab_as_elim]
theorem scan_induction {motive : String → Prop}
    (plain : ∀ template, (∀ front name behind, ¬Occurs template front name behind) →
      motive template)
    (step : ∀ template front name behind, Leftmost template front name behind → motive behind →
      motive template) (template : String) : motive template := by
  induction length : template.length using Nat.strong_induction_on generalizing template with
  | _ n ih =>
      by_cases clear : ∀ front name behind, ¬Occurs template front name behind
      · exact plain template clear
      · simp only [not_forall, not_not] at clear
        obtain ⟨_, _, _, occurs⟩ := clear
        obtain ⟨front, name, behind, leftmost⟩ := occurs.exists_leftmost
        have shorter : behind.length < n := length ▸ leftmost.length_lt
        exact step template front name behind leftmost (ih _ shorter behind rfl)

end Templates

theorem render_congr {metrics metrics' : Keyed String Metric} {template : String}
    (same : ∀ name, Scans template name → metrics.get? name = metrics'.get? name) :
    render metrics template = render metrics' template := by
  induction template using scan_induction with
  | plain template clear => rw [render_of_clear clear, render_of_clear clear]
  | step template front name behind leftmost ih =>
      have here : shown metrics name = shown metrics' name := by
        rw [shown, shown, same name (.here leftmost)]
      have further := ih fun other scans => same other (.behind leftmost scans)
      rw [render_of_leftmost leftmost, render_of_leftmost leftmost, here, further]

theorem render_of_placeholders {metrics : Keyed String Metric} {template : String}
    (own : ∀ name, Scans template name →
      metrics.get? name = some (.text ("#\x7b" ++ name ++ "\x7d"))) :
    render metrics template = template := by
  induction template using scan_induction with
  | plain template clear => exact render_of_clear clear
  | step template front name behind leftmost ih =>
      have here : shown metrics name = "#\x7b" ++ name ++ "\x7d" := by
        rw [shown, own name (.here leftmost)]
        rfl
      have further := ih fun other scans => own other (.behind leftmost scans)
      rw [render_of_leftmost leftmost, here, further, leftmost.split]
      simp only [String.append_assoc]

/-- The law of templates. A template without placeholders is kept. In every other one there is a
    leftmost placeholder; it gives way to the text of its metric between the text in front of it,
    which is kept, and the text behind it, which is treated in the same way. So no metric counts
    that the scan does not come to, and a value that is put in is not looked at again, not even if
    it is a placeholder. -/
theorem rendered_in_one_scan (template : String) :
    ((∀ front name behind, ¬Occurs template front name behind) →
      ∀ metrics, render metrics template = template) ∧
    (∀ front name behind, Occurs template front name behind →
      ∃ front name behind, Leftmost template front name behind) ∧
    (∀ front name behind, Leftmost template front name behind → ∀ metrics,
      render metrics template =
        front ++ (metrics.get? name).elim "undefined" Metric.display ++ render metrics behind) ∧
    (∀ metrics metrics', (∀ name, Scans template name → metrics.get? name = metrics'.get? name) →
      render metrics template = render metrics' template) ∧
    ∀ metrics, (∀ name, Scans template name →
        metrics.get? name = some (.text ("#\x7b" ++ name ++ "\x7d"))) →
      render metrics template = template := by
  refine ⟨?_, ?_, ?_, ?_, ?_⟩
  · intro clear metrics
    exact render_of_clear clear
  · intro front name behind occurs
    exact occurs.exists_leftmost
  · intro front name behind leftmost metrics
    exact render_of_leftmost leftmost
  · intro metrics metrics' same
    exact render_congr same
  · intro metrics own
    exact render_of_placeholders own

/-- A name goes as far as the first closing brace, and braces without a name are no placeholder. -/
theorem rendered_in_one_scan_nested_marks :
    let template := "#\x7ba#\x7bb\x7d#\x7b\x7d"
    let metrics : Keyed String Metric :=
      .ofList [("a#\x7bb", .text "#\x7bc\x7d"), ("b", .integer 1), ("c", .integer 2)]
    Leftmost template "" "a#\x7bb" "#\x7b\x7d" ∧
      render metrics template = "#\x7bc\x7d#\x7b\x7d" := by
  intro template metrics
  have leftmost : Leftmost template "" "a#\x7bb" "#\x7b\x7d" :=
    ⟨⟨by decide, by decide, by decide⟩, fun _ => Nat.zero_le _⟩
  have clear : ∀ front name behind, ¬Occurs "#\x7b\x7d" front name behind := by
    intro front name behind occurs
    obtain ⟨split, nonempty, -⟩ := occurs_iff.1 occurs
    have lengths := congrArg List.length split
    have positive := List.length_pos_iff.2 nonempty
    simp at lengths
    omega
  have value : metrics.get? "a#\x7bb" = some (.text "#\x7bc\x7d") := by decide
  obtain ⟨-, -, filled, -, -⟩ := rendered_in_one_scan template
  obtain ⟨kept, -, -, -, -⟩ := rendered_in_one_scan "#\x7b\x7d"
  refine ⟨leftmost, ?_⟩
  rw [filled _ _ _ leftmost, kept clear, value]
  decide

end AlertEngine.Template
