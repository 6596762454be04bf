import AlertEngine.Pattern.Reader
import AlertEngine.Proofs.ExpressionTree
import AlertEngine.Proofs.Run

/-! # Short circuits

A junction goes through its parts from left to right and stops at the first one that decides it or
fails. Where nothing fails this cannot be told from the truth of the whole tree. A failure is that
of the one comparison that evaluation came to and could not make sense of, and says on which way it
came there.
-/

namespace AlertEngine

/-- A junction on the way into an expression. -/
structure Expression.Node where
  junction : Junction
  parts : List Expression

def Expression.Node.expression (node : Node) : Expression :=
  .junction node.junction node.parts

/-- An error inside of these junctions, the outermost one first. -/
def EvaluationError.within (path : List Expression.Node) (cause : EvaluationError) :
    EvaluationError :=
  path.foldr (fun node e => .part node.junction node.parts e) cause

theorem EvaluationError.messageWith_within (reasonText : String → String)
    (path : List Expression.Node) (cause : EvaluationError) :
    (within path cause).messageWith reasonText =
      path.foldr (fun node text =>
          "Sub-expression of " ++ node.expression.display ++ " is not valid: " ++ text)
        (cause.messageWith reasonText) := by
  induction path with
  | nil => rfl
  | cons node path ih =>
      rw [List.foldr_cons, ← ih]
      rfl

namespace Expression

section Evaluation

variable [PatternLanguage] {current : Sample} {previous : Option Sample}

/-- A part that leaves the junction undecided. -/
def Undecisive (current : Sample) (previous : Option Sample) (j : Junction)
    (part : Expression) : Prop :=
  part.evaluate current previous = .ok j.neutral

section Junctions

variable {j : Junction} {parts : List Expression}

theorem evaluateParts_eq_neutral_iff :
    evaluateParts current previous j parts = .ok j.neutral ↔
      ∀ part ∈ parts, Undecisive current previous j part := by
  induction parts with
  | nil => simp [evaluateParts]
  | cons part rest ih =>
      simp only [evaluateParts, List.forall_mem_cons, Undecisive]
      cases value : part.evaluate current previous with
      | error e => simp
      | ok b => by_cases pass : b = j.neutral <;> simp [pass, ih, Undecisive]

/-- What is not undecided comes from the first part that is not. -/
theorem evaluateParts_eq_iff {outcome : Except EvaluationError Bool}
    (decisive : outcome ≠ .ok j.neutral) :
    evaluateParts current previous j parts = outcome ↔
      ∃ part, Reached (Undecisive current previous j) parts part ∧
        part.evaluate current previous = outcome := by
  induction parts with
  | nil => simp [evaluateParts, not_reached_nil, decisive.symm]
  | cons part rest ih =>
      simp only [evaluateParts, reached_cons_iff, or_and_right, exists_or, exists_eq_left,
        and_assoc, Undecisive]
      cases value : part.evaluate current previous with
      | error e => simp
      | ok b => by_cases pass : b = j.neutral <;> simp [pass, ih, decisive.symm]

theorem evaluate_junction_eq_neutral_iff :
    (junction j parts).evaluate current previous = .ok j.neutral ↔
      ∀ part ∈ parts, Undecisive current previous j part := by
  rw [← evaluateParts_eq_neutral_iff, evaluate]
  cases evaluateParts current previous j parts <;> simp

theorem evaluate_junction_eq_decided_iff :
    (junction j parts).evaluate current previous = .ok (!j.neutral) ↔
      ∃ part, Reached (Undecisive current previous j) parts part ∧
        part.evaluate current previous = .ok (!j.neutral) := by
  rw [← evaluateParts_eq_iff (by simp), evaluate]
  cases evaluateParts current previous j parts <;> simp

theorem evaluate_junction_eq_error_iff {e : EvaluationError} :
    (junction j parts).evaluate current previous = .error e ↔
      ∃ part cause, Reached (Undecisive current previous j) parts part ∧
        part.evaluate current previous = .error cause ∧ e = .part j parts cause := by
  have wrapped : (junction j parts).evaluate current previous = .error e ↔
      ∃ cause, evaluateParts current previous j parts = .error cause ∧ e = .part j parts cause := by
    rw [evaluate]
    cases evaluateParts current previous j parts <;> simp [eq_comm]
  rw [wrapped]
  constructor
  · rintro ⟨cause, failed, rfl⟩
    obtain ⟨part, reached, failed⟩ := (evaluateParts_eq_iff (by simp)).1 failed
    exact ⟨part, cause, reached, failed, rfl⟩
  · rintro ⟨part, cause, reached, failed, rfl⟩
    exact ⟨cause, (evaluateParts_eq_iff (by simp)).2 ⟨part, reached, failed⟩, rfl⟩

end Junctions

/-- What the rules of short circuits make of the results of comparisons. -/
inductive Yields (result : Comparison → Except EvaluationError Bool) :
    Expression → Except EvaluationError Bool → Prop where
  | comparison (c : Comparison) : Yields result (.comparison c) (result c)
  /-- No part decides. -/
  | undecided {j : Junction} {parts : List Expression} :
      (∀ part ∈ parts, Yields result part (.ok j.neutral)) →
      Yields result (.junction j parts) (.ok j.neutral)
  | decided {j : Junction} {front back : List Expression} {part : Expression} :
      (∀ earlier ∈ front, Yields result earlier (.ok j.neutral)) →
      Yields result part (.ok (!j.neutral)) →
      Yields result (.junction j (front ++ part :: back)) (.ok (!j.neutral))
  | failed {j : Junction} {front back : List Expression} {part : Expression}
      {cause : EvaluationError} :
      (∀ earlier ∈ front, Yields result earlier (.ok j.neutral)) →
      Yields result part (.error cause) →
      Yields result (.junction j (front ++ part :: back))
        (.error (.part j (front ++ part :: back) cause))

theorem evaluate_of_yields {e : Expression} {outcome : Except EvaluationError Bool}
    (yields : Yields (fun c => c.evaluate current previous) e outcome) :
    e.evaluate current previous = outcome := by
  induction yields with
  | comparison c => rw [evaluate]
  | undecided _ ih => exact evaluate_junction_eq_neutral_iff.2 ih
  | decided _ _ before ih =>
      exact evaluate_junction_eq_decided_iff.2 ⟨_, ⟨_, _, rfl, before⟩, ih⟩
  | failed _ _ before ih =>
      exact evaluate_junction_eq_error_iff.2 ⟨_, _, ⟨_, _, rfl, before⟩, ih, rfl⟩

theorem yields_evaluate (e : Expression) :
    Yields (fun c => c.evaluate current previous) e (e.evaluate current previous) := by
  induction e using rec_parts with
  | comparison c =>
      rw [evaluate]
      exact .comparison c
  | junction j parts ih =>
      have known : ∀ part ∈ parts, ∀ outcome, part.evaluate current previous = outcome →
          Yields (fun c => c.evaluate current previous) part outcome := by
        rintro part member _ rfl
        exact ih part member
      cases outcome : (junction j parts).evaluate current previous with
      | error e =>
          obtain ⟨part, cause, ⟨front, back, rfl, before⟩, failed, rfl⟩ :=
            evaluate_junction_eq_error_iff.1 outcome
          simp only [List.mem_append, List.mem_cons] at known
          exact .failed (fun earlier member => known earlier (.inl member) _ (before _ member))
            (known part (.inr (.inl rfl)) _ failed)
      | ok b =>
          by_cases neutral : b = j.neutral
          · subst neutral
            exact .undecided fun part member =>
              known part member _ (evaluate_junction_eq_neutral_iff.1 outcome part member)
          · obtain rfl : b = !j.neutral := Bool.eq_not_of_ne neutral
            obtain ⟨part, ⟨front, back, rfl, before⟩, decided⟩ :=
              evaluate_junction_eq_decided_iff.1 outcome
            simp only [List.mem_append, List.mem_cons] at known
            exact .decided (fun earlier member => known earlier (.inl member) _ (before _ member))
              (known part (.inr (.inl rfl)) _ decided)

theorem evaluateParts_of_values {truth : Comparison → Bool} (j : Junction)
    {parts : List Expression}
    (values : ∀ part ∈ parts, part.evaluate current previous = .ok (part.holds truth)) :
    evaluateParts current previous j parts = .ok ((junction j parts).holds truth) := by
  induction parts with
  | nil => cases j <;> rfl
  | cons part rest ih =>
      rw [List.forall_mem_cons] at values
      rw [evaluateParts, values.1, ih values.2]
      cases j with
      | all => cases value : part.holds truth <;> simp [holds_all, value, Junction.neutral]
      | any => cases value : part.holds truth <;> simp [holds_any, value, Junction.neutral]

/-- An expression whose comparisons all have a value has the value of the tree. -/
theorem evaluate_of_comparisons {truth : Comparison → Bool} {e : Expression}
    (known : ∀ c ∈ e.comparisons, c.evaluate current previous = .ok (truth c)) :
    e.evaluate current previous = .ok (e.holds truth) := by
  induction e using rec_parts with
  | comparison c =>
      rw [evaluate, known c (List.mem_singleton.2 rfl)]
      rfl
  | junction j parts ih =>
      rw [evaluate, evaluateParts_of_values]
      intro part member
      exact ih part member fun c within =>
        known c (mem_comparisons_junction.2 ⟨part, member, within⟩)

theorem evaluate_of_rearranged {truth : Comparison → Bool} {e e' : Expression}
    (same : Rearranged e e')
    (known : ∀ c ∈ e.comparisons, c.evaluate current previous = .ok (truth c)) :
    e'.evaluate current previous = e.evaluate current previous := by
  rw [evaluate_of_comparisons known, evaluate_of_comparisons, same.holds_eq truth]
  exact fun c within => known c ((same.mem_comparisons_iff c).1 within)

/-- Evaluation comes to this comparison through these junctions: in each of them the parts in front
    leave it undecided. -/
inductive Reaches (current : Sample) (previous : Option Sample) :
    Expression → List Node → Comparison → Prop where
  | here (c : Comparison) : Reaches current previous (.comparison c) [] c
  | inside {j : Junction} {parts : List Expression} {part : Expression} {path : List Node}
      {c : Comparison} :
      Reached (Undecisive current previous j) parts part → Reaches current previous part path c →
      Reaches current previous (.junction j parts) (⟨j, parts⟩ :: path) c

theorem evaluate_eq_error_iff {e : Expression} {error : EvaluationError} :
    e.evaluate current previous = .error error ↔
      ∃ path c cause, Reaches current previous e path c ∧
        c.evaluate current previous = .error cause ∧ error = .within path cause := by
  induction e using rec_parts generalizing error with
  | comparison c =>
      rw [evaluate]
      constructor
      · intro failed
        exact ⟨[], c, error, .here c, failed, rfl⟩
      · rintro ⟨_, _, cause, ⟨⟩, failed, rfl⟩
        exact failed
  | junction j parts ih =>
      rw [evaluate_junction_eq_error_iff]
      constructor
      · rintro ⟨part, inner, reached, failed, rfl⟩
        obtain ⟨path, c, cause, reaches, cannot, rfl⟩ := (ih part reached.mem).1 failed
        exact ⟨⟨j, parts⟩ :: path, c, cause, .inside reached reaches, cannot, rfl⟩
      · rintro ⟨_, c, cause, reaches, failed, rfl⟩
        obtain _ | ⟨reached, reaches⟩ := reaches
        exact ⟨_, _, reached, (ih _ reached.mem).2 ⟨_, c, cause, reaches, failed, rfl⟩, rfl⟩

theorem Reaches.decisive {part : Expression} {path : List Node} {c : Comparison}
    {cause : EvaluationError} (reaches : Reaches current previous part path c)
    (failed : c.evaluate current previous = .error cause) (j : Junction) :
    ¬Undecisive current previous j part := by
  have error := evaluate_eq_error_iff.2 ⟨path, c, cause, reaches, failed, rfl⟩
  simp [Undecisive, error]

theorem Reaches.unique {e : Expression} {path path' : List Node} {c c' : Comparison}
    {cause cause' : EvaluationError} (reaches : Reaches current previous e path c)
    (failed : c.evaluate current previous = .error cause)
    (reaches' : Reaches current previous e path' c')
    (failed' : c'.evaluate current previous = .error cause') : path' = path ∧ c' = c := by
  induction reaches generalizing path' with
  | here c =>
      cases reaches'
      exact ⟨rfl, rfl⟩
  | @inside j parts part path c reached reaches ih =>
      obtain _ | ⟨reached', reaches'⟩ := reaches'
      obtain rfl := reached.unique (reaches.decisive failed j) reached'
        (reaches'.decisive failed' j)
      obtain ⟨rfl, rfl⟩ := ih failed reaches'
      exact ⟨rfl, rfl⟩

/-- The law of evaluation. It follows the rules of short circuits on the results of comparisons. If
    these do not fail, it gives the truth of the tree, however the tree is arranged. An error is
    that of the only failing comparison that it comes to, inside of the junctions on the way there,
    and its text shows each of them. -/
theorem evaluated_in_order (current : Sample) (previous : Option Sample) :
    let result := fun c : Comparison => c.evaluate current previous
    let value := fun e : Expression => e.evaluate current previous
    (∀ e outcome, value e = outcome ↔ Yields result e outcome) ∧
    (∀ parts,
      (value (.junction .any parts) = .ok true ↔
        ∃ part, Reached (fun earlier => value earlier = .ok false) parts part ∧
          value part = .ok true) ∧
      (value (.junction .any parts) = .ok false ↔ ∀ part ∈ parts, value part = .ok false) ∧
      (value (.junction .all parts) = .ok false ↔
        ∃ part, Reached (fun earlier => value earlier = .ok true) parts part ∧
          value part = .ok false) ∧
      (value (.junction .all parts) = .ok true ↔ ∀ part ∈ parts, value part = .ok true)) ∧
    (∀ j parts e, value (.junction j parts) = .error e ↔
      ∃ part cause, Reached (fun earlier => value earlier = .ok j.neutral) parts part ∧
        value part = .error cause ∧ e = .part j parts cause) ∧
    (∀ e truth, (∀ c ∈ e.comparisons, result c = .ok (truth c)) →
      value e = .ok (e.holds truth) ∧ ∀ e', Rearranged e e' → value e' = value e) ∧
    (∀ e error, value e = .error error ↔
      ∃ path c cause, Reaches current previous e path c ∧ result c = .error cause ∧
        error = .within path cause) ∧
    (∀ path cause, (EvaluationError.within path cause).message =
      path.foldr (fun node text =>
        "Sub-expression of " ++ node.expression.display ++ " is not valid: " ++ text)
        cause.message) ∧
    ∀ e path c cause path' c' cause',
      Reaches current previous e path c → result c = .error cause →
      Reaches current previous e path' c' → result c' = .error cause' → path' = path ∧ c' = c := by
  intro result value
  refine ⟨fun e outcome => ⟨?_, evaluate_of_yields⟩, fun parts => ?_, fun j parts e => ?_,
    fun e truth known => ?_, fun e error => evaluate_eq_error_iff,
    EvaluationError.messageWith_within _, ?_⟩
  · rintro rfl
    exact yields_evaluate e
  · exact ⟨evaluate_junction_eq_decided_iff, evaluate_junction_eq_neutral_iff,
      evaluate_junction_eq_decided_iff, evaluate_junction_eq_neutral_iff⟩
  · exact evaluate_junction_eq_error_iff
  · exact ⟨evaluate_of_comparisons known, fun e' same => evaluate_of_rearranged same known⟩
  · intro e path c cause path' c' cause' reaches failed reaches' failed'
    exact reaches.unique failed reaches' failed'

end Evaluation

/-- A comparison that cannot be made is not come to behind a part that decides, and is found two
    junctions deep behind one that does not. -/
theorem evaluated_in_order_two_deep :
    let up : Comparison := ⟨.metric "up", .equal, .text "no"⟩
    let broken : Comparison := ⟨.metric "up", .greater, .text "no"⟩
    let parts : List Expression := [.comparison up, .comparison broken]
    let sample := (Sample.new default "west").withMetric "up" (.text "no")
    (junction .any parts).evaluate sample none = .ok true ∧
    (junction .any [junction .all parts]).evaluate sample none =
      .error
        (.within [⟨.any, [junction .all parts]⟩, ⟨.all, parts⟩] (.comparator .text broken)) := by
  intro up broken parts sample
  obtain ⟨-, node, -, -, failure, -⟩ := evaluated_in_order sample none
  have holds : (Expression.comparison up).evaluate sample none = .ok true := rfl
  constructor
  · exact (node parts).1.2 ⟨_, ⟨[], _, rfl, nofun⟩, holds⟩
  · refine (failure _ _).2 ⟨_, broken, _, .inside ⟨[], [], rfl, nofun⟩ (.inside ?_ (.here broken)),
      rfl, rfl⟩
    exact ⟨[.comparison up], [], rfl, List.forall_mem_singleton.2 holds⟩

end Expression

end AlertEngine
