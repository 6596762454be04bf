import AlertEngine.Monitor
import AlertEngine.Proofs.OverallChain
import AlertEngine.Proofs.SettledZones

/-! # Runs of a monitor

A monitor passes the states that its rules propose to the quorum of its zones. So a run of the
monitor is a run of that quorum on the log of the samples that were processed.
-/

namespace AlertEngine

/-- Critical where the metric `up` reads `no`. -/
def Rule.down (message : Option String) : Rule :=
  ⟨.critical, .comparison ⟨.metric "up", .equal, .text "no"⟩, message⟩

/-- A sample of nothing but the metric `up`. -/
def Sample.up (zone : String) (value : Metric) : Sample :=
  (Sample.new default zone).withMetric "up" value

namespace Monitor

/-- The machine that a zone starts with: every state has the same count, and none is known. -/
def zoneMachine (count : Nat) (positive : 0 < count) : Debounce AlertState :=
  ⟨AlertState.all.map fun state => ⟨state, count, positive⟩, none, none⟩

theorem count?_zoneMachine (count : Nat) (positive : 0 < count) :
    (zoneMachine count positive).count? = fun _ => some count := by
  funext state
  cases state <;> rfl

theorem fresh_zoneMachine (count : Nat) (positive : 0 < count) :
    (zoneMachine count positive).Fresh :=
  ⟨rfl, fun _ here => nomatch here⟩

theorem zoneHolder_eq (count : Nat) (positive : 0 < count) :
    zoneHolder count = .ok (.debounce (zoneMachine count positive)) := by
  simp [zoneHolder, AlertState.all, StateSpec.new, positive, Debounce.new, bind, Except.bind, pure,
    Except.pure, zoneMachine, Debounce.indeterminate]

theorem ofTask_eq (task : Task) (positive : 0 < task.parameters.consecutive.toNat) :
    Monitor.ofTask task =
      (Quorum.new task.parameters.quorum.toNat
        (.debounce (zoneMachine task.parameters.consecutive.toNat positive))).map
          fun zones => ⟨task, zones, none⟩ := by
  rw [ofTask, zoneHolder_eq _ positive]
  simp only [bind, Except.bind, pure, Except.pure]
  split <;> simp only [*, Except.map]

/-- The monitor of a task whose counts are positive. -/
def initial (task : Task) (quorum : 0 < task.parameters.quorum.toNat)
    (consecutive : 0 < task.parameters.consecutive.toNat) : Monitor :=
  ⟨task, ⟨_, quorum, .debounce (zoneMachine _ consecutive), .empty, .empty⟩, none⟩

theorem ofTask_eq_initial (task : Task) (quorum : 0 < task.parameters.quorum.toNat)
    (consecutive : 0 < task.parameters.consecutive.toNat) :
    Monitor.ofTask task = .ok (initial task quorum consecutive) := by
  rw [ofTask_eq task consecutive, Quorum.new_of_pos quorum]
  rfl

theorem ofTask_eq_ok {task : Task} {m : Monitor} (h : Monitor.ofTask task = .ok m) :
    ∃ positive : 0 < task.parameters.consecutive.toNat,
      Quorum.new task.parameters.quorum.toNat
        (.debounce (zoneMachine task.parameters.consecutive.toNat positive)) = .ok m.zones ∧
      m.task = task ∧ m.previous = none := by
  by_cases consecutive : 0 < task.parameters.consecutive.toNat
  · by_cases quorum : 0 < task.parameters.quorum.toNat
    · rw [ofTask_eq_initial task quorum consecutive] at h
      cases h
      exact ⟨consecutive, Quorum.new_of_pos quorum _, rfl, rfl⟩
    · rw [ofTask_eq task consecutive, Quorum.new, dif_neg quorum] at h
      cases h
  · have zero : task.parameters.consecutive.toNat = 0 := by omega
    rw [ofTask, zero] at h
    cases h

theorem debouncing_of_ofTask {task : Task} {m : Monitor} (h : Monitor.ofTask task = .ok m) :
    ∃ positive, m.zones.Debouncing (zoneMachine task.parameters.consecutive.toNat positive) := by
  obtain ⟨positive, new, -⟩ := ofTask_eq_ok h
  obtain ⟨fresh, -, machine⟩ := Quorum.fresh_of_new new
  refine ⟨positive, fresh, machine, fresh_zoneMachine _ _, rfl, fun s => ?_⟩
  rw [count?_zoneMachine]
  simp

variable [PatternLanguage]

def after (m : Monitor) (sample : Sample) : Monitor :=
  (m.process sample).1

def run (m : Monitor) (samples : List Sample) : Monitor :=
  samples.foldl after m

def announcement? (m : Monitor) (sample : Sample) : Option Announcement :=
  (m.process sample).2.toOption.join

/-- What is announced on the samples of a run, in order. -/
def announcements (m : Monitor) (samples : List Sample) : List Announcement :=
  Run.collect after announcement? m samples

/-- The zone of a sample and the state proposed for it, if the sample is processed. -/
def logged? (m : Monitor) (sample : Sample) : Option (String × AlertState) :=
  match m.candidate sample, (m.process sample).2 with
  | .ok (state, _), .ok _ => some (sample.zone, state)
  | _, _ => none

/-- What the processed samples of a run have proposed, in order. -/
def log (m : Monitor) (samples : List Sample) : List (String × AlertState) :=
  Run.collect after logged? m samples

/-- The states proposed for the processed samples of one zone, in order. -/
def historyOf (m : Monitor) (samples : List Sample) (zone : String) : List AlertState :=
  Quorum.inputsOf zone (m.log samples)

/-- The zones that a sample has been processed for, each once. -/
def zonesOf (m : Monitor) (samples : List Sample) : List String :=
  Quorum.zonesOf (m.log samples)

theorem run_concat (m : Monitor) (samples : List Sample) (sample : Sample) :
    m.run (samples ++ [sample]) = (m.run samples).after sample :=
  List.foldl_concat after m sample samples

theorem run_append (m : Monitor) (front back : List Sample) :
    m.run (front ++ back) = (m.run front).run back :=
  List.foldl_append

theorem announcements_concat (m : Monitor) (samples : List Sample) (sample : Sample) :
    m.announcements (samples ++ [sample]) =
      m.announcements samples ++ ((m.run samples).announcement? sample).toList :=
  Run.collect_concat after announcement? m samples sample

theorem log_concat (m : Monitor) (samples : List Sample) (sample : Sample) :
    m.log (samples ++ [sample]) = m.log samples ++ ((m.run samples).logged? sample).toList :=
  Run.collect_concat after logged? m samples sample

/-- What a sample does to a monitor whose zones are on a run that refuses nothing. -/
theorem process_cases {q : Quorum String AlertState} {machine : Debounce AlertState}
    (debouncing : q.Debouncing machine) {m : Monitor} {calls : List (String × AlertState)}
    (zones : m.zones = q.run calls) (sample : Sample) :
    (∃ e, m.candidate sample = .error e ∧ m.process sample = (m, .error (.evaluation e)) ∧
      m.logged? sample = none ∧ m.announcement? sample = none) ∨
    ∃ state template, m.candidate sample = .ok (state, template) ∧
      m.process sample =
        ({ m with zones := m.zones.after (sample.zone, state), previous := some sample },
          .ok ((m.zones.change? (sample.zone, state)).map fun t =>
            ⟨t, template.map (Template.render sample.metrics)⟩)) ∧
      m.logged? sample = some (sample.zone, state) ∧
      (m.announcement? sample).map (·.transition) = m.zones.change? (sample.zone, state) := by
  cases h : m.candidate sample with
  | error e =>
      have processed : m.process sample = (m, .error (.evaluation e)) := by
        simp only [process, h]
      refine .inl ⟨e, rfl, processed, by simp only [logged?, h], ?_⟩
      rw [announcement?, processed]
      rfl
  | ok proposal =>
      obtain ⟨state, template⟩ := proposal
      obtain ⟨change, stepped⟩ := debouncing.step_ok calls sample.zone state
      rw [← zones] at stepped
      have reported : m.zones.change? (sample.zone, state) = change := by
        rw [Quorum.change?, stepped]
        rfl
      have processed : m.process sample =
          ({ m with zones := m.zones.after (sample.zone, state), previous := some sample },
            .ok (change.map fun t => ⟨t, template.map (Template.render sample.metrics)⟩)) := by
        cases change <;> simp only [process, h, stepZone, stepped, Option.map_none,
          Option.map_some, Quorum.after]
      rw [← reported] at processed
      refine .inr ⟨state, template, rfl, processed, ?_, ?_⟩
      · simp only [logged?, h, processed]
      · rw [announcement?, processed]
        cases m.zones.change? (sample.zone, state) <;> rfl

/-- The zones of a monitor have been through the log of its run. -/
structure Follows (start m : Monitor) (samples : List Sample) : Prop where
  task : m.task = start.task
  zones : m.zones = start.zones.run (start.log samples)
  announced : (start.announcements samples).map (·.transition) =
    start.zones.changes (start.log samples)

theorem follows_run {start : Monitor} {machine : Debounce AlertState}
    (debouncing : start.zones.Debouncing machine) (samples : List Sample) :
    Follows start (start.run samples) samples := by
  induction samples using List.reverseRecOn with
  | nil => exact ⟨rfl, rfl, rfl⟩
  | append_singleton samples sample ih =>
      rw [run_concat, after]
      obtain ⟨e, -, processed, unlogged, unannounced⟩ |
        ⟨state, template, -, processed, logged, announced⟩ :=
        process_cases debouncing ih.zones sample
      · rw [processed]
        refine ⟨ih.task, ?_, ?_⟩
        · rw [log_concat, unlogged, Option.toList_none, List.append_nil, ih.zones]
        · rw [announcements_concat, log_concat, unlogged, unannounced, Option.toList_none,
            Option.toList_none, List.append_nil, List.append_nil, ih.announced]
      · rw [processed]
        refine ⟨ih.task, ?_, ?_⟩
        · rw [log_concat, logged, Option.toList_some, Quorum.run_concat, ← ih.zones]
        · rw [announcements_concat, log_concat, logged, Option.toList_some,
            Quorum.changes_concat, List.map_append, ih.announced, ← ih.zones, ← announced,
            Option.toList_map]

end Monitor

end AlertEngine
