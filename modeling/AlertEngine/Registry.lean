import AlertEngine.Monitor

/-! # Registries

Monitors under the ids of their tasks. A task that is registered again starts afresh; one that
cannot be set up leaves what is registered alone.
-/

namespace AlertEngine

inductive EventError where
  | config (error : ConfigError AlertState)
  | evaluation (error : EvaluationError)
  | unknownTask (id : Uuid)

namespace EventError

def ofMonitor : MonitorError → EventError
  | .config e => .config e
  | .evaluation e => .evaluation e

/-- The text of an error, given the text of what is wrong with a pattern. -/
def messageWith (reasonText : String → String) : EventError → String
  | .config e => "Configuration error: " ++ e.message AlertState.name
  | .evaluation e => "Evaluation error: " ++ e.messageWith reasonText
  | .unknownTask id => "Unknown task: " ++ id.text

def message (e : EventError) : String :=
  e.messageWith id

end EventError

structure Registry where
  monitors : Keyed Uuid Monitor

namespace Registry

def empty : Registry := ⟨.empty⟩

def register (registry : Registry) (task : Task) :
    Registry × Except (ConfigError AlertState) Unit :=
  match Monitor.ofTask task with
  | .ok monitor => (⟨registry.monitors.insert task.id monitor⟩, .ok ())
  | .error e => (registry, .error e)

/-- Whether a task is registered. -/
def contains (registry : Registry) (id : Uuid) : Bool :=
  registry.monitors.contains id

/-- Forget a task; the answer says whether there was one. -/
def remove (registry : Registry) (id : Uuid) : Registry × Bool :=
  (⟨registry.monitors.erase id⟩, registry.contains id)

/-- The ids of the registered tasks in ascending order. -/
def ids (registry : Registry) : List Uuid :=
  registry.monitors.keys

def process [PatternLanguage] (registry : Registry) (id : Uuid) (sample : Sample) :
    Registry × Except EventError (Option Announcement) :=
  match registry.monitors.get? id with
  | none => (registry, .error (.unknownTask id))
  | some monitor =>
    match monitor.process sample with
    | (monitor, .ok announcement) =>
      (⟨registry.monitors.insert id monitor⟩, .ok announcement)
    | (monitor, .error e) =>
      (⟨registry.monitors.insert id monitor⟩, .error (.ofMonitor e))

end Registry

end AlertEngine
