import AlertEngine.Pattern.Reader
import AlertEngine.Proofs.Processing
import AlertEngine.Proofs.ShortCircuit

/-! # Typing

A comparison makes sense or not, whatever the samples are. One that does fails exactly when a metric
that it reads holds a value of the other kind. So rules that make sense never fail on samples whose
metrics are of the kinds that the rules expect.
-/

namespace AlertEngine

def Metric.kind : Metric → Operand
  | .integer _ | .double _ => .number
  | .text _ => .text

/-- What a literal is compared with. -/
def Literal.kind : Literal → Operand
  | .number _ => .number
  | .text _ => .text

/-- The metric is there, and it is not of this kind. -/
def Sample.Contradicts (sample : Sample) (kind : Operand) (name : String) : Prop :=
  ∃ value, sample.metric? name = some value ∧ value.kind ≠ kind

instance (sample : Sample) (kind : Operand) (name : String) :
    Decidable (sample.Contradicts kind name) :=
  inferInstanceAs (Decidable (∃ value ∈ sample.metric? name, value.kind ≠ kind))

/-- The metrics that are referred to. -/
def Source.names : Source → List String
  | .metric name | .rate name | .previous name => [name]
  | .percentage part whole => [part, whole]

namespace Comparison

/-- A comparison that makes sense. Numbers have an order but match no pattern; texts have no order,
    and only a metric itself can be one. -/
def WellFormed [PatternLanguage] (c : Comparison) : Prop :=
  match c.literal with
  | .number _ => c.comparator ≠ .matching ∧ c.comparator ≠ .notMatching
  | .text written =>
    (∃ name, c.source = .metric name) ∧
      (c.comparator = .equal ∨ c.comparator = .notEqual ∨
        (c.comparator = .matching ∨ c.comparator = .notMatching) ∧
          ∃ test, PatternLanguage.compile written = .ok test)

/-- What a comparison reads in which sample. There is nothing to be read of a change, or of what
    was before, as long as there is no previous sample. -/
def reads (c : Comparison) (current : Sample) (previous : Option Sample) : List (Sample × String) :=
  match c.source with
  | .metric name => [(current, name)]
  | .rate of => previous.elim [] fun before => [(current, of), (before, of)]
  | .percentage part whole => [(current, part), (current, whole)]
  | .previous of => previous.elim [] fun before => [(before, of)]

/-- A value that is read is there, and it is not of the kind of the literal. -/
def Mistyped (c : Comparison) (current : Sample) (previous : Option Sample) : Prop :=
  ∃ sample name, (sample, name) ∈ c.reads current previous ∧
    sample.Contradicts c.literal.kind name

/-- Every metric that is referred to is missing or of the kind of the literal. -/
def Fits (c : Comparison) (sample : Sample) : Prop :=
  ∀ name ∈ c.source.names, ¬sample.Contradicts c.literal.kind name

instance (c : Comparison) (sample : Sample) : Decidable (c.Fits sample) :=
  inferInstanceAs (Decidable (∀ name ∈ c.source.names, ¬sample.Contradicts c.literal.kind name))

end Comparison

/-- An outcome that is an error. -/
def Fails {α : Type} (outcome : Except EvaluationError α) : Prop :=
  ∃ e, outcome = .error e

@[simp] theorem fails_error {α : Type} (e : EvaluationError) :
    Fails (.error e : Except EvaluationError α) := ⟨e, rfl⟩

@[simp] theorem not_fails_ok {α : Type} (a : α) :
    ¬Fails (.ok a : Except EvaluationError α) := nofun

theorem not_fails_iff {α : Type} {outcome : Except EvaluationError α} :
    ¬Fails outcome ↔ ∃ a, outcome = .ok a := by
  cases outcome <;> simp

theorem fails_bind_iff {α β : Type} {first : Except EvaluationError α}
    {rest : α → Except EvaluationError β} {bad : Prop} (rest_iff : ∀ a, Fails (rest a) ↔ bad) :
    Fails (first >>= rest) ↔ Fails first ∨ bad := by
  cases first with
  | error e => simp [bind, Except.bind]
  | ok a => simp [bind, Except.bind, rest_iff]

theorem fails_bind_iff_first {α β : Type} {first : Except EvaluationError α}
    {rest : α → Except EvaluationError β} (fine : ∀ a, ¬Fails (rest a)) :
    Fails (first >>= rest) ↔ Fails first := by
  rw [fails_bind_iff fun a => iff_false_intro (fine a), or_false]

namespace Comparison

variable {c : Comparison} {current : Sample} {previous : Option Sample}

theorem fails_number_iff {sample : Sample} {name : String} :
    Fails (c.number sample name) ↔ sample.Contradicts .number name := by
  rw [number, Sample.Contradicts]
  cases sample.metric? name with
  | none => simp
  | some value => cases value <;> simp [Metric.number?, Metric.kind]

theorem fails_percentage_iff {part whole : String} :
    Fails (c.percentage current part whole) ↔
      current.Contradicts .number part ∨ current.Contradicts .number whole := by
  rw [percentage, ← fails_number_iff (c := c), ← fails_number_iff (c := c)]
  refine fails_bind_iff fun part => ?_
  refine fails_bind_iff_first fun whole => ?_
  cases part <;> cases whole <;> simp [pure, Except.pure]

theorem fails_rate_iff {before : Sample} {of : String} :
    Fails (c.rate current (some before) of) ↔
      current.Contradicts .number of ∨ before.Contradicts .number of := by
  rw [rate, ← fails_number_iff (c := c), ← fails_number_iff (c := c)]
  refine fails_bind_iff fun now => ?_
  refine fails_bind_iff_first fun past => ?_
  cases now <;> cases past <;> simp [pure, Except.pure]
  split <;> simp

theorem fails_measured_iff :
    Fails (c.measured current previous) ↔
      ∃ sample name,
        (sample, name) ∈ c.reads current previous ∧ sample.Contradicts .number name := by
  rw [measured, reads]
  cases c.source with
  | metric name => simp [fails_number_iff]
  | rate of =>
      cases previous with
      | none => simp [rate]
      | some before => simp [fails_rate_iff, or_and_right, exists_or, and_assoc]
  | percentage part whole => simp [fails_percentage_iff, or_and_right, exists_or, and_assoc]
  | previous of =>
      cases previous with
      | none => simp
      | some before => simp [fails_number_iff]

theorem fails_worded_iff (previous : Option Sample) :
    Fails (c.worded current) ↔
      ¬(∃ name, c.source = .metric name) ∨
        ∃ sample name, (sample, name) ∈ c.reads current previous ∧
          sample.Contradicts .text name := by
  rw [worded, reads]
  cases c.source with
  | metric name =>
      cases found : current.metric? name with
      | none => simp [Sample.Contradicts, found]
      | some value =>
          cases value <;> simp [Sample.Contradicts, found, Metric.text?, Metric.kind]
  | rate | percentage | previous => simp

theorem fails_compareNumbers_iff {left : Option Float} {right : Float} :
    Fails (c.compareNumbers left right) ↔
      ¬(c.comparator ≠ .matching ∧ c.comparator ≠ .notMatching) := by
  rw [compareNumbers]
  cases c.comparator <;> simp [numberTest?]

theorem fails_compareTexts_iff [PatternLanguage] {left : Option String} {right : String} :
    Fails (c.compareTexts left right) ↔
      ¬(c.comparator = .equal ∨ c.comparator = .notEqual ∨
        (c.comparator = .matching ∨ c.comparator = .notMatching) ∧
          ∃ test, PatternLanguage.compile right = .ok test) := by
  rw [compareTexts]
  cases c.comparator <;> cases PatternLanguage.compile right <;> simp

/-- The law of one comparison. -/
theorem fails_evaluate_iff [PatternLanguage] :
    Fails (c.evaluate current previous) ↔ ¬c.WellFormed ∨ c.Mistyped current previous := by
  rw [WellFormed, Mistyped]
  cases literal : c.literal with
  | number right =>
      have evaluated : c.evaluate current previous =
          c.measured current previous >>= fun left => c.compareNumbers left right := by
        rw [evaluate, literal]
        cases c.measured current previous <;> rfl
      rw [evaluated, fails_bind_iff fun _ => fails_compareNumbers_iff, fails_measured_iff, or_comm,
        Literal.kind]
  | text right =>
      have evaluated : c.evaluate current previous =
          c.worded current >>= fun left => c.compareTexts left right := by
        rw [evaluate, literal]
        cases c.worded current <;> rfl
      rw [evaluated, fails_bind_iff fun _ => fails_compareTexts_iff,
        fails_worded_iff previous, Literal.kind, or_right_comm, ← not_and_or]

theorem mem_reads {sample : Sample} {name : String} :
    (sample, name) ∈ c.reads current previous →
      name ∈ c.source.names ∧ (sample = current ∨ previous = some sample) := by
  rw [reads]
  cases c.source with
  | metric of =>
      intro read
      obtain ⟨rfl, rfl⟩ : sample = current ∧ name = of := by simpa using read
      exact ⟨.head _, .inl rfl⟩
  | percentage part whole =>
      intro read
      obtain ⟨rfl, named⟩ : sample = current ∧ name ∈ [part, whole] := by
        simpa [← and_or_left] using read
      exact ⟨named, .inl rfl⟩
  | rate of =>
      cases previous with
      | none => exact nofun
      | some before =>
          intro read
          obtain ⟨either, rfl⟩ : (sample = current ∨ before = sample) ∧ name = of := by
            simpa [or_and_right, eq_comm] using read
          exact ⟨.head _, either.imp_right (congrArg some)⟩
  | previous of =>
      cases previous with
      | none => exact nofun
      | some before =>
          intro read
          obtain ⟨rfl, rfl⟩ : sample = before ∧ name = of := by simpa using read
          exact ⟨.head _, .inr rfl⟩

theorem WellFormed.evaluate [PatternLanguage] (wellFormed : c.WellFormed) (now : c.Fits current)
    (past : ∀ before, previous = some before → c.Fits before) :
    ∃ value, c.evaluate current previous = .ok value := by
  rw [← not_fails_iff, fails_evaluate_iff]
  rintro (ill | ⟨sample, name, read, contradicts⟩)
  · exact ill wellFormed
  · obtain ⟨named, rfl | before⟩ := mem_reads read
    · exact now name named contradicts
    · exact past sample before name named contradicts

end Comparison

section Trees

variable {current : Sample} {previous : Option Sample}

def Expression.WellFormed [PatternLanguage] (e : Expression) : Prop :=
  ∀ c ∈ e.comparisons, c.WellFormed

def Expression.Fits (e : Expression) (sample : Sample) : Prop :=
  ∀ c ∈ e.comparisons, c.Fits sample

instance (e : Expression) (sample : Sample) : Decidable (e.Fits sample) :=
  inferInstanceAs (Decidable (∀ c ∈ e.comparisons, c.Fits sample))

theorem Expression.WellFormed.evaluate [PatternLanguage] {e : Expression}
    (wellFormed : e.WellFormed) (now : e.Fits current) (past : ∀ before, previous = some before → e.Fits before) :
    ∃ value, e.evaluate current previous = .ok value := by
  let truth (c : Comparison) := (c.evaluate current previous).toOption.getD false
  have known : ∀ c ∈ e.comparisons, c.evaluate current previous = .ok (truth c) := by
    intro c member
    obtain ⟨value, known⟩ := (wellFormed c member).evaluate (now c member)
      fun before same => past before same c member
    simp only [truth, known, Except.toOption, Option.getD_some]
  exact ⟨_, evaluate_of_comparisons known⟩

end Trees

def Task.WellFormed [PatternLanguage] (task : Task) : Prop :=
  ∀ rule ∈ task.parameters.rules, rule.expression.WellFormed

def Task.Fits (task : Task) (sample : Sample) : Prop :=
  ∀ rule ∈ task.parameters.rules, rule.expression.Fits sample

instance (task : Task) (sample : Sample) : Decidable (task.Fits sample) :=
  inferInstanceAs (Decidable (∀ rule ∈ task.parameters.rules, rule.expression.Fits sample))

namespace Monitor

variable [PatternLanguage]

theorem candidate_of_wellFormed {m : Monitor} {sample : Sample} (wellFormed : m.task.WellFormed)
    (now : m.task.Fits sample) (past : ∀ before, m.previous = some before → m.task.Fits before) :
    ∃ proposal, m.candidate sample = .ok proposal := by
  cases proposed : m.candidate sample with
  | ok proposal => exact ⟨proposal, rfl⟩
  | error e =>
      obtain ⟨rule, reached, failed⟩ := firstTrue_eq_error_iff.1 proposed
      obtain ⟨value, known⟩ := (wellFormed rule reached.mem).evaluate (now rule reached.mem)
        fun before same => past before same rule reached.mem
      rw [known] at failed
      cases failed

/-- What a monitor remembers is a sample of its run. -/
theorem mem_of_previous_run {start : Monitor} {machine : Debounce AlertState}
    (debouncing : start.zones.Debouncing machine) (new : start.previous = none)
    {samples : List Sample} {before : Sample}
    (remembered : (start.run samples).previous = some before) : before ∈ samples := by
  induction samples using List.reverseRecOn with
  | nil =>
      rw [run, List.foldl_nil, new] at remembered
      cases remembered
  | append_singleton samples sample ih =>
      rw [run_concat, after] at remembered
      obtain ⟨e, -, processed, -⟩ | ⟨state, template, -, processed, -⟩ :=
        process_cases debouncing (follows_run debouncing samples).zones sample
      · rw [processed] at remembered
        exact List.mem_append_left _ (ih remembered)
      · rw [processed] at remembered
        obtain rfl := Option.some.inj remembered
        exact List.mem_append_right _ (.head _)

section Fitting

variable {task : Task} {start : Monitor} (accepted : Monitor.ofTask task = .ok start)
  (wellFormed : task.WellFormed)

include accepted wellFormed

theorem process_of_wellFormed {samples : List Sample} {sample : Sample} (now : task.Fits sample)
    (past : ∀ before, (start.run samples).previous = some before → task.Fits before) :
    ∃ announced, ((start.run samples).process sample).2 = .ok announced := by
  obtain ⟨_, debouncing⟩ := debouncing_of_ofTask accepted
  obtain ⟨-, -, rfl, -⟩ := ofTask_eq_ok accepted
  have follows := follows_run debouncing samples
  rw [← follows.task] at wellFormed now past
  obtain ⟨proposal, proposed⟩ := candidate_of_wellFormed wellFormed now past
  obtain ⟨e, failed, -⟩ | ⟨state, template, -, processed, -⟩ :=
    process_cases debouncing follows.zones sample
  · rw [proposed] at failed
    cases failed
  · exact ⟨_, congrArg Prod.snd processed⟩

theorem accepted_of_wellFormed {samples : List Sample}
    (fit : ∀ sample ∈ samples, task.Fits sample) :
    start.accepted samples = samples := by
  obtain ⟨_, debouncing⟩ := debouncing_of_ofTask accepted
  obtain ⟨-, -, -, new⟩ := ofTask_eq_ok accepted
  induction samples using List.reverseRecOn with
  | nil => rfl
  | append_singleton samples sample ih =>
      rw [List.forall_mem_append, List.forall_mem_singleton] at fit
      obtain ⟨announced, processed⟩ := process_of_wellFormed accepted wellFormed fit.2
        fun before remembered => fit.1 before (mem_of_previous_run debouncing new remembered)
      rw [accepted_concat, ih fit.1, accepted?, processed]
      rfl

end Fitting

end Monitor

/-- The law of typing. A comparison that makes no sense fails whatever the samples are; one that
    does fails exactly when a value that it reads is of the other kind. So where every metric that
    is referred to is missing or of the kind that is expected, an expression that makes sense has a
    value, and a monitor with such rules processes every sample. -/
theorem typed_evaluation [PatternLanguage] :
    (∀ c : Comparison, ¬c.WellFormed → ∀ current previous, Fails (c.evaluate current previous)) ∧
    (∀ c : Comparison, c.WellFormed → ∀ current previous,
      (Fails (c.evaluate current previous) ↔ c.Mistyped current previous)) ∧
    (∀ e : Expression, e.WellFormed → ∀ current previous, e.Fits current →
      (∀ before, previous = some before → e.Fits before) →
      ∃ value, e.evaluate current previous = .ok value) ∧
    ∀ task start, Monitor.ofTask task = .ok start → task.WellFormed →
      (∀ samples sample, task.Fits sample →
        (∀ before, (start.run samples).previous = some before → task.Fits before) →
        ∃ announced, ((start.run samples).process sample).2 = .ok announced) ∧
      ∀ samples, (∀ sample ∈ samples, task.Fits sample) → start.accepted samples = samples := by
  refine ⟨fun c ill current previous => Comparison.fails_evaluate_iff.2 (.inl ill),
    fun c wellFormed current previous => ?_,
    fun e wellFormed current previous now past => wellFormed.evaluate now past,
    fun task start accepted wellFormed =>
      ⟨fun samples sample now past => ?_, fun samples fit => ?_⟩⟩
  · rw [Comparison.fails_evaluate_iff]
    exact or_iff_right (not_not_intro wellFormed)
  · exact Monitor.process_of_wellFormed accepted wellFormed now past
  · exact Monitor.accepted_of_wellFormed accepted wellFormed fit

/-- A text before a number is an error for a rate, and a rate is no text. Samples with numbers, or
    with nothing, are all processed. -/
theorem typed_evaluation_of_rates :
    let rising : Comparison := ⟨.rate "load", .greater, .number 1⟩
    let failing : Comparison := ⟨.metric "state", .matching, .text "^fail"⟩
    let rule : Rule := ⟨.critical, .any [.comparison failing, .comparison rising], none⟩
    let task : Task := { (default : Task) with parameters := { rules := [rule] } }
    let sample := fun load => (Sample.new default "west").withMetric "load" load
    let samples := [sample (.integer 1), (sample (.double 2)).withMetric "state" (.text "failed"),
      Sample.new default "west"]
    Fails ((⟨.rate "load", .equal, .text "1"⟩ : Comparison).evaluate (sample (.integer 1)) none) ∧
      Fails (rising.evaluate (sample (.integer 1)) (some (sample (.text "1")))) ∧
      ∃ start, Monitor.ofTask task = .ok start ∧ start.accepted samples = samples := by
  intro rising failing rule task sample samples
  obtain ⟨ill, well, -, monitors⟩ := typed_evaluation
  let start : Monitor := .initial task (by decide) (by decide)
  have accepted : Monitor.ofTask task = .ok start := Monitor.ofTask_eq_initial task _ _
  have ordered : rising.WellFormed := ⟨nofun, nofun⟩
  have compiled : failing.WellFormed := ⟨⟨_, rfl⟩, .inr (.inr ⟨.inl rfl, _, rfl⟩)⟩
  have unworded : ¬(⟨.rate "load", .equal, .text "1"⟩ : Comparison).WellFormed :=
    fun ⟨⟨_, named⟩, _⟩ => nomatch named
  have sound : task.WellFormed := List.forall_mem_singleton.2
    (List.forall_mem_cons.2 ⟨compiled, List.forall_mem_singleton.2 ordered⟩)
  refine ⟨ill _ unworded _ _, (well _ ordered _ _).2 ?_, start, accepted,
    (monitors task start accepted sound).2 samples (by decide +kernel)⟩
  exact ⟨sample (.text "1"), "load", .tail _ (.head _), .text "1", by decide, nofun⟩

end AlertEngine
