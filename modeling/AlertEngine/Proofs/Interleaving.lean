import AlertEngine.Pattern.Reader
import AlertEngine.Proofs.ExpressionTree
import AlertEngine.Proofs.Processing
import AlertEngine.Proofs.ZoneIsolation

/-! # Interleaved samples

Zones also share the sample before. A task whose rules only look at the current sample does not
notice that: what they propose for a sample is the same at any point of a run, and so is what
becomes of a zone, however the samples of other zones come in between.
-/

namespace AlertEngine

/-- A source that is read off the current sample alone. -/
def Source.Momentary : Source → Prop
  | .metric _ | .percentage _ _ => True
  | .rate _ | .previous _ => False

instance : DecidablePred Source.Momentary
  | .metric _ | .percentage _ _ => .isTrue trivial
  | .rate _ | .previous _ => .isFalse id

def Expression.Momentary (e : Expression) : Prop :=
  ∀ c ∈ e.comparisons, c.source.Momentary

instance : DecidablePred Expression.Momentary := fun e =>
  inferInstanceAs (Decidable (∀ c ∈ e.comparisons, c.source.Momentary))

def Task.Momentary (task : Task) : Prop :=
  ∀ rule ∈ task.parameters.rules, rule.expression.Momentary

instance : DecidablePred Task.Momentary := fun task =>
  inferInstanceAs (Decidable (∀ rule ∈ task.parameters.rules, rule.expression.Momentary))

section Values

variable (current : Sample) (previous other : Option Sample)

theorem Comparison.measured_of_momentary {c : Comparison} (momentary : c.source.Momentary) :
    c.measured current other = c.measured current previous := by
  obtain ⟨source, comparator, literal⟩ := c
  cases source with
  | metric | percentage => rfl
  | rate | previous => exact momentary.elim

variable [PatternLanguage]

theorem Comparison.evaluate_of_momentary {c : Comparison} (momentary : c.source.Momentary) :
    c.evaluate current other = c.evaluate current previous := by
  rw [evaluate, evaluate, measured_of_momentary current previous other momentary]

variable {current previous other}

theorem Expression.evaluateParts_congr {j : Junction} {parts : List Expression}
    (same : ∀ part ∈ parts, part.evaluate current other = part.evaluate current previous) :
    evaluateParts current other j parts = evaluateParts current previous j parts := by
  induction parts with
  | nil => rfl
  | cons part rest ih =>
      rw [List.forall_mem_cons] at same
      rw [evaluateParts, evaluateParts, same.1, ih same.2]

variable (current previous other)

theorem Expression.evaluate_of_momentary {e : Expression} (momentary : e.Momentary) :
    e.evaluate current other = e.evaluate current previous := by
  induction e using rec_parts with
  | comparison c =>
      rw [evaluate, evaluate]
      exact c.evaluate_of_momentary current previous other (momentary c (List.mem_singleton_self c))
  | junction j parts ih =>
      rw [evaluate, evaluate, evaluateParts_congr fun part member => ih part member fun c within =>
        momentary c (mem_comparisons_junction.2 ⟨part, member, within⟩)]

theorem Monitor.firstTrue_of_momentary {rules : List Rule}
    (momentary : ∀ rule ∈ rules, rule.expression.Momentary) :
    firstTrue current other rules = firstTrue current previous rules := by
  induction rules with
  | nil => rfl
  | cons rule rest ih =>
      rw [List.forall_mem_cons] at momentary
      rw [firstTrue, firstTrue, ih momentary.2,
        rule.expression.evaluate_of_momentary current previous other momentary.1]

end Values

namespace Monitor

/-- The samples of one zone, in order. -/
def samplesOf (zone : String) (samples : List Sample) : List Sample :=
  samples.filter fun sample => sample.zone = zone

theorem samplesOf_concat (zone : String) (samples : List Sample) (sample : Sample) :
    samplesOf zone (samples ++ [sample]) =
      samplesOf zone samples ++ if sample.zone = zone then [sample] else [] := by
  by_cases here : sample.zone = zone <;> simp [samplesOf, here]

section Language

variable [PatternLanguage]

/-- What is proposed for the samples of one zone on a run, failures included. -/
def proposals (m : Monitor) (samples : List Sample) (zone : String) :
    List (Except EvaluationError (AlertState × Option String)) :=
  Run.collect after
    (fun m sample => if sample.zone = zone then some (m.candidate sample) else none) m samples

theorem proposals_concat (m : Monitor) (samples : List Sample) (sample : Sample) (zone : String) :
    m.proposals (samples ++ [sample]) zone = m.proposals samples zone ++
      if sample.zone = zone then [(m.run samples).candidate sample] else [] := by
  rw [proposals, Run.collect_concat]
  split <;> rfl

theorem historyOf_eq {start : Monitor} {machine : Debounce AlertState}
    (debouncing : start.zones.Debouncing machine) (samples : List Sample) (zone : String) :
    start.historyOf samples zone =
      (start.proposals samples zone).filterMap fun proposal => proposal.toOption.map Prod.fst := by
  induction samples using List.reverseRecOn with
  | nil => rfl
  | append_singleton samples sample ih =>
      rw [proposals_concat, List.filterMap_append, ← ih, historyOf, log_concat]
      obtain ⟨e, failed, -, unlogged, -⟩ | ⟨state, template, found, -, logged, -⟩ :=
        process_cases debouncing (follows_run debouncing samples).zones sample
      · rw [unlogged, failed, Option.toList_none, List.append_nil]
        split <;> exact (List.append_nil _).symm
      · rw [logged, found, Option.toList_some, Quorum.inputsOf_concat]
        split <;> rfl

theorem Follows.candidate_eq {start m : Monitor} {samples : List Sample}
    (follows : Follows start m samples) (momentary : start.task.Momentary) (sample : Sample) :
    m.candidate sample = start.candidate sample := by
  rw [candidate, candidate, follows.task]
  exact firstTrue_of_momentary sample start.previous m.previous momentary

theorem proposals_of_momentary {start : Monitor} {machine : Debounce AlertState}
    (debouncing : start.zones.Debouncing machine) (momentary : start.task.Momentary)
    (samples : List Sample) (zone : String) :
    start.proposals samples zone = (samplesOf zone samples).map start.candidate := by
  induction samples using List.reverseRecOn with
  | nil => rfl
  | append_singleton samples sample ih =>
      rw [proposals_concat, samplesOf_concat, List.map_append, ih,
        (follows_run debouncing samples).candidate_eq momentary]
      split <;> rfl

/-- Interleaved samples. Under a task that does not look back, a sample is given the same proposal,
    or fails in the same way, wherever it comes in a run. So as long as every zone sends the same
    samples in the same order, zones can take turns at will: their samples are given the same
    proposals, and the zones end up with the same states and the same counts. -/
theorem interleaved_samples {task : Task} {start : Monitor}
    (accepted : Monitor.ofTask task = .ok start) (momentary : task.Momentary)
    {samples other : List Sample}
    (same : ∀ zone, samplesOf zone other = samplesOf zone samples) :
    (∀ front sample, (start.run front).candidate sample = start.candidate sample ∧
      ∀ error, ((start.run front).process sample).2 = .error error ↔
        ∃ e, start.candidate sample = .error e ∧ error = .evaluation e) ∧
    (∀ zone, start.proposals samples zone = (samplesOf zone samples).map start.candidate ∧
      start.proposals other zone = start.proposals samples zone) ∧
    (start.run other).zones.zones = (start.run samples).zones.zones ∧
    (start.run other).zoneStates = (start.run samples).zoneStates := by
  obtain ⟨_, debouncing⟩ := debouncing_of_ofTask accepted
  obtain ⟨-, -, rfl, -⟩ := ofTask_eq_ok accepted
  have proposed := proposals_of_momentary debouncing momentary
  have agree : ∀ zone, start.proposals other zone = start.proposals samples zone := by
    intro zone
    rw [proposed, proposed, same]
  have zones : (start.run other).zones.zones = (start.run samples).zones.zones := by
    rw [(follows_run debouncing other).zones, (follows_run debouncing samples).zones]
    apply debouncing.fresh.zones_run_congr
    intro zone
    rw [← historyOf, ← historyOf, historyOf_eq debouncing, historyOf_eq debouncing, agree]
  refine ⟨fun front sample => ?_, fun zone => ⟨proposed samples zone, agree zone⟩, zones, ?_⟩
  · have follows := follows_run debouncing front
    have candidate := follows.candidate_eq momentary sample
    refine ⟨candidate, fun error => ?_⟩
    rw [process_error_iff debouncing follows.zones, candidate]
  · rw [zoneStates, zoneStates, Quorum.observations, Quorum.observations, zones]

end Language

/-- Two zones take turns, or one comes after the other, and one sample fails: the sample before is
    another one in the end, and both times the second zone is waiting for its second sample. -/
theorem interleaved_samples_two_zones :
    let parameters : TaskParameters := { consecutive := 2, rules := [.down none] }
    let task : Task := { (default : Task) with parameters := parameters }
    let turns : List Sample := [.up "west" (.text "no"), .up "east" (.text "no"),
      .up "east" (.integer 1), .up "west" (.text "no")]
    let apart : List Sample := [.up "west" (.text "no"), .up "west" (.text "no"),
      .up "east" (.text "no"), .up "east" (.integer 1)]
    ∃ start, Monitor.ofTask task = .ok start ∧
      (start.run apart).previous ≠ (start.run turns).previous ∧
      (start.run apart).zoneStates = .ofList [("east", none), ("west", some .critical)] ∧
      (start.run apart).zones.zones.get? "east" =
        some (.debounce { zoneMachine 2 Nat.two_pos with pending := some ⟨.critical, 1⟩ }) := by
  intro parameters task turns apart
  let start : Monitor := initial task (by decide) (by decide)
  have accepted : Monitor.ofTask task = .ok start := ofTask_eq_initial task _ _
  have momentary : task.Momentary := by decide
  have same : ∀ zone, samplesOf zone apart = samplesOf zone turns := by
    intro zone
    by_cases west : zone = "west"
    · subst west
      decide +kernel
    · by_cases east : zone = "east"
      · subst east
        decide +kernel
      · simp [samplesOf, apart, turns, Sample.up, Sample.new, Sample.withMetric, Ne.symm west,
          Ne.symm east]
  obtain ⟨-, -, zones, states⟩ := interleaved_samples accepted momentary same
  refine ⟨start, accepted, by decide +kernel, ?_, ?_⟩
  · rw [states]
    decide +kernel
  · rw [zones]
    decide +kernel

end Monitor

end AlertEngine
