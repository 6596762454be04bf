import AlertEngine.Expression.Basic
import AlertEngine.Keyed
import AlertEngine.Uuid

/-! # Alert tasks

A task lists rules in order of priority. A rule proposes a state, with a message template, for
samples on which its expression is true.
-/

namespace AlertEngine

inductive AlertState where
  | critical
  | warning
  | ok
  deriving Repr, DecidableEq

namespace AlertState

def all : List AlertState := [.critical, .warning, .ok]

/-- The state of a sample on which no rule is true. -/
def fallback : AlertState := .ok

def text : AlertState → String
  | .critical => "CRITICAL"
  | .warning => "WARNING"
  | .ok => "OK"

/-- The name of a state in the texts of errors. -/
def name : AlertState → String
  | .critical => "Critical"
  | .warning => "Warning"
  | .ok => "Ok"

def ofText? (text : String) : Option AlertState :=
  all.find? (·.text = text)

theorem ofText?_text (state : AlertState) : ofText? state.text = some state := by
  cases state <;> decide

end AlertState

structure Rule where
  state : AlertState
  expression : Expression
  message : Option String

/-- What a task asks for. -/
structure TaskParameters where
  metricGroup : String := ""
  labelSelector : Keyed String String := .empty
  zoneLabel : String := ""
  /-- How many zones have to agree on a state. -/
  quorum : UInt64 := 1
  /-- How often in a row a zone has to see a state. -/
  consecutive : UInt32 := 1
  rules : List Rule := []

instance : Inhabited TaskParameters := ⟨{}⟩

structure Task where
  id : Uuid
  tenant : String
  name : String
  parameters : TaskParameters
  deriving Inhabited

end AlertEngine
