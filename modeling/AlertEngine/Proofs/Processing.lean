import AlertEngine.Pattern.Reader
import AlertEngine.Proofs.MonitorRun
import AlertEngine.Proofs.Run

/-! # Processing a sample

A sample is processed as a whole or not at all. What its rules propose is the first of them that is
true; a rule that cannot be evaluated on the way there ends it, and nothing has happened by then.
-/

namespace AlertEngine.Monitor

section Language

variable [PatternLanguage]

section Rules

variable {current : Sample} {previous : Option Sample} {rules : List Rule}

theorem firstTrue_eq_error_iff {e : EvaluationError} :
    firstTrue current previous rules = .error e ↔
      ∃ rule, Reached (fun rule : Rule => rule.expression.evaluate current previous = .ok false)
        rules rule ∧ rule.expression.evaluate current previous = .error e := by
  induction rules with
  | nil => simp [firstTrue, not_reached_nil]
  | cons rule rest ih =>
      simp only [firstTrue, reached_cons_iff, or_and_right, exists_or, exists_eq_left, and_assoc]
      cases value : rule.expression.evaluate current previous with
      | error e => simp
      | ok holds => cases holds <;> simp [ih]

theorem firstTrue_eq_ok_iff {state : AlertState} {template : Option String} :
    firstTrue current previous rules = .ok (state, template) ↔
      (∃ rule, Reached (fun rule : Rule => rule.expression.evaluate current previous = .ok false)
        rules rule ∧ rule.expression.evaluate current previous = .ok true ∧
        state = rule.state ∧ template = rule.message) ∨
      (∀ rule ∈ rules, rule.expression.evaluate current previous = .ok false) ∧
        state = .ok ∧ template = none := by
  induction rules with
  | nil => simp [firstTrue, not_reached_nil, AlertState.fallback, eq_comm]
  | cons rule rest ih =>
      simp only [firstTrue, reached_cons_iff, or_and_right, exists_or, exists_eq_left, and_assoc,
        List.forall_mem_cons]
      cases value : rule.expression.evaluate current previous with
      | error e => simp
      | ok holds => cases holds <;> simp [ih, eq_comm]

end Rules

theorem announcement?_of_error {m : Monitor} {sample : Sample} {error : MonitorError}
    (failed : (m.process sample).2 = .error error) : m.announcement? sample = none := by
  rw [announcement?, failed]
  rfl

section Process

variable {q : Quorum String AlertState} {machine : Debounce AlertState}
  (debouncing : q.Debouncing machine) {m : Monitor} {calls : List (String × AlertState)}
  (zones : m.zones = q.run calls) {sample : Sample}

include debouncing zones

/-- Zones that are on such a run refuse nothing, so that only the rules can fail. -/
theorem process_error_iff {error : MonitorError} :
    (m.process sample).2 = .error error ↔
      ∃ e, m.candidate sample = .error e ∧ error = .evaluation e := by
  obtain ⟨e, failed, processed, -⟩ | ⟨state, template, found, processed, -⟩ :=
    process_cases debouncing zones sample
  · simp [failed, processed, eq_comm]
  · simp [found, processed]

theorem process_of_error {error : MonitorError} (failed : (m.process sample).2 = .error error) :
    (m.process sample).1 = m := by
  obtain ⟨e, -, processed, -⟩ | ⟨state, template, -, processed, -⟩ :=
    process_cases debouncing zones sample
  · rw [processed]
  · simp [processed] at failed

theorem process_of_ok {announced : Option Announcement}
    (ok : (m.process sample).2 = .ok announced) :
    ∃ state template, m.candidate sample = .ok (state, template) ∧
      (m.process sample).1 =
        { m with zones := m.zones.after (sample.zone, state), previous := some sample } ∧
      announced = (m.zones.change? (sample.zone, state)).map fun t =>
        ⟨t, template.map (Template.render sample.metrics)⟩ := by
  obtain ⟨e, -, processed, -⟩ | ⟨state, template, found, processed, -⟩ :=
    process_cases debouncing zones sample
  · simp [processed] at ok
  · rw [processed] at ok
    exact ⟨state, template, found, by rw [processed], (Except.ok.inj ok).symm⟩

end Process

/-- The sample itself, unless it fails. -/
def accepted? (m : Monitor) (sample : Sample) : Option Sample :=
  (m.process sample).2.toOption.map fun _ => sample

/-- The samples of a run that do not fail. -/
def accepted (m : Monitor) (samples : List Sample) : List Sample :=
  Run.collect after accepted? m samples

theorem accepted_concat (m : Monitor) (samples : List Sample) (sample : Sample) :
    m.accepted (samples ++ [sample]) =
      m.accepted samples ++ ((m.run samples).accepted? sample).toList :=
  Run.collect_concat after accepted? m samples sample

/-- A run without the samples that fail ends as the whole run does and announces the same. -/
theorem run_accepted {start : Monitor} {machine : Debounce AlertState}
    (debouncing : start.zones.Debouncing machine) (samples : List Sample) :
    start.run (start.accepted samples) = start.run samples ∧
      start.announcements (start.accepted samples) = start.announcements samples := by
  induction samples using List.reverseRecOn with
  | nil => exact ⟨rfl, rfl⟩
  | append_singleton samples sample ih =>
      obtain ⟨same, heard⟩ := ih
      rw [run_concat, announcements_concat, accepted_concat]
      obtain ⟨e, -, processed, -, unannounced⟩ | ⟨state, template, -, processed, -⟩ :=
        process_cases debouncing (follows_run debouncing samples).zones sample
      · have refused : (start.run samples).accepted? sample = none := by
          rw [accepted?, processed]
          rfl
        rw [refused, unannounced, after, processed, Option.toList_none, Option.toList_none,
          List.append_nil, List.append_nil]
        exact ⟨same, heard⟩
      · have taken : (start.run samples).accepted? sample = some sample := by
          rw [accepted?, processed]
          rfl
        rw [taken, Option.toList_some, run_concat, announcements_concat, same, heard]
        exact ⟨rfl, rfl⟩

/-- The law of one sample, in every state that a run can reach. It fails exactly when a rule does
    before any is true, and then nothing has changed. Otherwise its zone is given the state of the
    first true rule, the overall state is announced if that has changed it, and the sample is
    remembered. So samples that fail could as well not have been there. -/
theorem processed_or_untouched {task : Task} {start : Monitor}
    (accepted : Monitor.ofTask task = .ok start) (samples : List Sample) (sample : Sample) :
    let now := start.run samples
    let next := (now.process sample).1
    let outcome := (now.process sample).2
    let rules := task.parameters.rules
    let value := fun rule : Rule => rule.expression.evaluate sample now.previous
    let reached := Reached (fun rule => value rule = .ok false) rules
    (∀ zone state, ∃ change, (now.stepZone zone state).2 = .ok change) ∧
    (∀ error, outcome = .error error ↔
      ∃ rule e, reached rule ∧ value rule = .error e ∧ error = .evaluation e) ∧
    (∀ error, outcome = .error error → next = now ∧ now.announcement? sample = none) ∧
    (∀ announced, outcome = .ok announced → ∃ state template,
      now.candidate sample = .ok (state, template) ∧
      ((∃ rule, reached rule ∧ value rule = .ok true ∧
          state = rule.state ∧ template = rule.message) ∨
        (∀ rule ∈ rules, value rule = .ok false) ∧ state = .ok ∧ template = none) ∧
      next = { now with zones := now.zones.after (sample.zone, state), previous := some sample } ∧
      (announced.isSome ↔ next.overallState ≠ now.overallState) ∧
      ∀ a, announced = some a → a.message = template.map (Template.render sample.metrics) ∧
        a.transition = ⟨⟨now.overallState, state⟩, next.zoneStates⟩) ∧
    start.run (start.accepted samples) = now ∧
    start.announcements (start.accepted samples) = start.announcements samples := by
  obtain ⟨_, debouncing⟩ := debouncing_of_ofTask accepted
  obtain ⟨-, -, rfl, -⟩ := ofTask_eq_ok accepted
  intro now next outcome rules value reached
  have follows := follows_run debouncing samples
  have proposed : now.candidate sample = firstTrue sample now.previous rules := by
    rw [candidate, follows.task]
  refine ⟨fun zone state => ?_, fun error => ?_, fun error => ?_, fun announced ok => ?_,
    run_accepted debouncing samples⟩
  · obtain ⟨change, stepped⟩ := debouncing.step_ok (start.log samples) zone state
    rw [← follows.zones] at stepped
    exact ⟨change, stepped⟩
  · rw [process_error_iff debouncing follows.zones, proposed]
    simp only [firstTrue_eq_error_iff]
    constructor
    · rintro ⟨e, ⟨rule, reach, failed⟩, rfl⟩
      exact ⟨rule, e, reach, failed, rfl⟩
    · rintro ⟨rule, e, reach, failed, rfl⟩
      exact ⟨e, ⟨rule, reach, failed⟩, rfl⟩
  · intro failed
    exact ⟨process_of_error debouncing follows.zones failed, announcement?_of_error failed⟩
  · obtain ⟨state, template, found, moved, rfl⟩ := process_of_ok debouncing follows.zones ok
    have arrived : next.zones = now.zones.after (sample.zone, state) := congrArg Monitor.zones moved
    refine ⟨state, template, found, firstTrue_eq_ok_iff.1 (proposed ▸ found), moved, ?_, ?_⟩
    · rw [Option.isSome_map, overallState, overallState, arrived]
      exact Quorum.change?_isSome_iff
    · intro a announced
      obtain ⟨t, changed, rfl⟩ := Option.map_eq_some_iff.1 announced
      rw [overallState, zoneStates, arrived]
      exact ⟨rfl, Quorum.eq_of_change? changed⟩

end Language

/-- A number where a text is compared is an error, which the sample after it does not show. -/
theorem processed_or_untouched_after_number :
    let down : Rule := .down (some "up: #\x7bup\x7d")
    let task : Task := { (default : Task) with parameters := { rules := [down] } }
    let samples : List Sample := [.up "west" (.integer 1), .up "west" (.text "no")]
    ∃ start, Monitor.ofTask task = .ok start ∧
      (start.process (.up "west" (.integer 1))).2 =
        .error (.evaluation (.operand "up" .text ⟨.metric "up", .equal, .text "no"⟩)) ∧
      start.run samples = start.run [.up "west" (.text "no")] ∧
      (start.announcements samples).map (·.message) = [some "up: no"] := by
  intro down task samples
  let start : Monitor := initial task (by decide) (by decide)
  have accepted : Monitor.ofTask task = .ok start := ofTask_eq_initial task _ _
  obtain ⟨-, fails, -⟩ := processed_or_untouched accepted [] (.up "west" (.integer 1))
  obtain ⟨-, -, -, -, run, announcements⟩ :=
    processed_or_untouched accepted samples (.up "west" (.text "no"))
  have second : start.accepted samples = [.up "west" (.text "no")] := by decide +kernel
  rw [second] at run announcements
  refine ⟨start, accepted, (fails _).2 ⟨down, _, ⟨[], [], rfl, nofun⟩, rfl, rfl⟩, run.symm, ?_⟩
  rw [← announcements]
  decide +kernel

end AlertEngine.Monitor
