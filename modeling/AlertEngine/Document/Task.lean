import AlertEngine.Document.Expression
import AlertEngine.State.Transition
import AlertEngine.Task

/-! # Tasks as documents -/

namespace AlertEngine

open Document

def Uuid.ofJson? : Reader Uuid
  | .string s => Uuid.ofText? s
  | _ => none

def Uuid.toJson (id : Uuid) : Json := .string id.text

namespace AlertState

def ofJson? : Reader AlertState := fun json => (choiceName isNull json).bind ofText?

def toJson (state : AlertState) : Json := .string state.text

end AlertState

namespace Transition

variable {σ : Type}

def ofJson? (state : Reader σ) : Reader (Transition σ) := fun json => do
  let record ← Record.ofJson? ["from", "to"] json
  let before ← record.optionalNamed "from" state
  let after ← record.required "to" state
  pure ⟨before, after⟩

def toJson (state : σ → Json) (t : Transition σ) : Json :=
  .object [("from", t.before.elim .null state), ("to", state t.after)]

end Transition

namespace Rule

def ofJson? : Reader Rule := fun json => do
  let record ← Record.ofJson? ["state", "expression", "message"] json
  let state ← record.required "state" AlertState.ofJson?
  let expression ← record.required "expression" Expression.ofJson?
  let message ← record.optional "message" text
  pure ⟨state, expression, message⟩

/-- A rule without a message has no field for it. -/
def toJson (rule : Rule) : Json :=
  .object ([("state", rule.state.toJson), ("expression", rule.expression.toJson)]
    ++ rule.message.toList.map fun message => ("message", .string message))

end Rule

namespace TaskParameters

def ofJson? : Reader TaskParameters := fun json => do
  let record ← Record.ofJson? ["metric_group", "label_selector", "zone_label",
    "zone_quorum_count", "default_consecutive_count", "state_expressions"] json
  let metricGroup ← record.withDefault "metric_group" text ""
  let labelSelector ← record.withDefault "label_selector" (table text) .empty
  let zoneLabel ← record.withDefault "zone_label" text ""
  let quorum ← record.withDefault "zone_quorum_count" uint64 1
  let consecutive ← record.withDefault "default_consecutive_count" uint32 1
  let rules ← record.withDefault "state_expressions" (list Rule.ofJson?) []
  pure ⟨metricGroup, labelSelector, zoneLabel, quorum, consecutive, rules⟩

def toJson (p : TaskParameters) : Json :=
  .object [
    ("metric_group", .string p.metricGroup),
    ("label_selector", .object (p.labelSelector.mapValues Json.string).entries),
    ("zone_label", .string p.zoneLabel),
    ("zone_quorum_count", .nat p.quorum.toNat),
    ("default_consecutive_count", .nat p.consecutive.toNat),
    ("state_expressions", .array (p.rules.map Rule.toJson))]

end TaskParameters

namespace Task

def ofJson? : Reader Task := fun json => do
  let record ← Record.ofJson? ["id", "tenant_id", "name", "task_parameters"] json
  let id ← record.required "id" Uuid.ofJson?
  let tenant ← record.required "tenant_id" text
  let name ← record.withDefault "name" text ""
  let parameters ← record.required "task_parameters" TaskParameters.ofJson?
  pure ⟨id, tenant, name, parameters⟩

def toJson (task : Task) : Json :=
  .object [
    ("id", task.id.toJson),
    ("tenant_id", .string task.tenant),
    ("name", .string task.name),
    ("task_parameters", task.parameters.toJson)]

end Task

end AlertEngine
