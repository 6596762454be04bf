import AlertEngine.Document.Task
import AlertEngine.Json.Reader
import AlertEngine.Settings.Basic
import AlertEngine.Text.CodeRanges
import AlertEngine.Text.Quoted
import AlertEngine.Toml.Reader

/-! # Task files

A task is loaded from a JSON or a TOML file; the extension of its name says which. Before the
task is read, what it leaves out is filled in: its id, its parameters, and the two counts of the
settings. What a file gives is never replaced, and a count that is null is not left out.
-/

namespace AlertEngine

/-- Why a task is not loaded. -/
inductive TaskFileError where
  | unknownFormat (extension : Option String)
  | json
  | toml
  | settings
  | noTable
  | noParameterTable
  | task
  deriving Repr, DecidableEq

def TaskFileError.message : TaskFileError → String
  | .unknownFormat none => "Unsupported task file extension: None"
  | .unknownFormat (some extension) =>
    "Unsupported task file extension: Some(" ++ Text.quoted extension ++ ")"
  | .json => "The task file is not JSON"
  | .toml => "The task file is not TOML"
  | .settings => "The settings cannot be loaded"
  | .noTable => "Task definition must be a table"
  | .noParameterTable => "task_parameters must be a table"
  | .task => "Invalid task definition"

structure LoadedTask where
  task : Task
  /-- Whether the file gave no id. -/
  idIsNew : Bool

namespace TaskFile

/-- The last name of a path. -/
def fileName? (path : String) : Option (List Char) :=
  let names := (pieces '/' path.toList).filter fun name => !name.isEmpty && name ≠ ['.']
  names.getLast?.filter (· ≠ ['.', '.'])

/-- What stands behind the last point of a file name, unless the name begins with that point. -/
def extension? (path : String) : Option String := do
  let name ← fileName? path
  let behind := (name.reverse.takeWhile (· ≠ '.')).reverse
  if behind.length + 1 < name.length then some (String.ofList behind) else none

/-- The content of a file as a JSON value without repeated fields. -/
def content (path text : String) : Except TaskFileError Json :=
  match extension? path with
  | some "json" => ((Json.read? text).bind Json.settled?).elim (.error .json) .ok
  | some "toml" => ((Toml.read? text).map Toml.toJson).elim (.error .toml) .ok
  | extension => .error (.unknownFormat extension)

/-- Add a field unless there is one of its name. -/
def fill (name : String) (value : Json) (fields : List (String × Json)) :
    List (String × Json) :=
  if fields.any (·.1 = name) then fields else fields ++ [(name, value)]

/-- The parameters of a task with the counts of the settings where they have none. -/
def fillCounts (defaults : ProcessorSettings) (fields : List (String × Json)) :
    List (String × Json) :=
  fill "default_consecutive_count" (.nat defaults.consecutive.toNat)
    (fill "zone_quorum_count" (.nat defaults.quorum.toNat) fields)

/-- Fill in what a task leaves out. -/
def complete (defaults : ProcessorSettings) (newId : Uuid) : Json → Except TaskFileError Json
  | .object fields =>
    let fields := fill "task_parameters" (.object []) (fill "id" newId.toJson fields)
    match Json.field? "task_parameters" fields with
    | some (.object parameters) =>
      .ok (.object (Json.setField "task_parameters" (.object (fillCounts defaults parameters))
        fields))
    | _ => .error .noParameterTable
  | _ => .error .noTable

def givesId : Json → Bool
  | .object fields => fields.any (·.1 = "id")
  | _ => false

/-- The task of a document. -/
def ofContent (defaults : ProcessorSettings) (newId : Uuid) (content : Json) :
    Except TaskFileError LoadedTask :=
  match complete defaults newId content with
  | .error e => .error e
  | .ok completed =>
    match Task.ofJson? completed with
    | none => .error .task
    | some task => .ok ⟨task, !givesId content⟩

/-- Load a task from the text of its file, with the settings, if they can be loaded. A text that
    cannot be read counts before settings that cannot. -/
def load (path text : String) (settings : Option Settings) (newId : Uuid) :
    Except TaskFileError LoadedTask :=
  match content path text, settings with
  | .error e, _ => .error e
  | .ok _, none => .error .settings
  | .ok content, some settings => ofContent settings.processor newId content

end TaskFile

end AlertEngine
