import AlertEngine.Expression.Evaluation
import AlertEngine.State.Quorum
import AlertEngine.Task
import AlertEngine.Template

/-! # Monitors

A monitor runs one task. Every sample is given the state of the first rule that is true on it;
the zone of the sample debounces that state, and a change of the overall state is announced with
the message of the rule. A sample that cannot be evaluated leaves no trace.
-/

namespace AlertEngine

inductive MonitorError where
  | config (error : ConfigError AlertState)
  | evaluation (error : EvaluationError)

/-- The announcement of a change. -/
structure Announcement where
  transition : OverallTransition String AlertState
  message : Option String
  deriving DecidableEq

structure Monitor where
  task : Task
  zones : Quorum String AlertState
  previous : Option Sample

namespace Monitor

/-- The holder of a new zone: every state counts as often as the task says, and none is known
    yet. -/
def zoneHolder (count : Nat) : Except (ConfigError AlertState) (Holder AlertState) := do
  let specs ← AlertState.all.mapM fun state => StateSpec.new state count
  let machine ← Debounce.new specs
  pure (.debounce machine.indeterminate)

def ofTask (task : Task) : Except (ConfigError AlertState) Monitor := do
  let holder ← zoneHolder task.parameters.consecutive.toNat
  let zones ← Quorum.new task.parameters.quorum.toNat holder
  pure ⟨task, zones, none⟩

section Rules

variable [PatternLanguage]

/-- The state and the template of the first rule that is true. -/
def firstTrue (current : Sample) (previous : Option Sample) :
    List Rule → Except EvaluationError (AlertState × Option String)
  | [] => .ok (AlertState.fallback, none)
  | rule :: rest =>
    match rule.expression.evaluate current previous with
    | .error e => .error e
    | .ok true => .ok (rule.state, rule.message)
    | .ok false => firstTrue current previous rest

/-- What the rules propose for a sample. -/
def candidate (m : Monitor) (sample : Sample) :
    Except EvaluationError (AlertState × Option String) :=
  firstTrue sample m.previous m.task.parameters.rules

end Rules

/-- Give a zone a state. -/
def stepZone (m : Monitor) (zone : String) (state : AlertState) :
    Monitor × Except (ConfigError AlertState) (Option (OverallTransition String AlertState)) :=
  let (zones, outcome) := m.zones.step zone state
  ({ m with zones := zones }, outcome)

/-- Process a sample; the answer holds the announcement, if there is one. -/
def process [PatternLanguage] (m : Monitor) (sample : Sample) :
    Monitor × Except MonitorError (Option Announcement) :=
  match m.candidate sample with
  | .error e => (m, .error (.evaluation e))
  | .ok (state, template) =>
    match m.stepZone sample.zone state with
    | (m, .error e) => (m, .error (.config e))
    | (m, .ok none) => ({ m with previous := some sample }, .ok none)
    | (m, .ok (some transition)) =>
      ({ m with previous := some sample },
        .ok (some ⟨transition, template.map (Template.render sample.metrics)⟩))

def overallState (m : Monitor) : Option AlertState :=
  m.zones.overall.held

def zoneState (m : Monitor) (zone : String) : Option AlertState :=
  m.zones.zoneState zone

def zoneStates (m : Monitor) : Keyed String (Option AlertState) :=
  m.zones.observations

end Monitor

end AlertEngine
