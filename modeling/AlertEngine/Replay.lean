import AlertEngine.Document.Sample
import AlertEngine.Json.Reader
import AlertEngine.Monitor
import AlertEngine.Settings.Load
import AlertEngine.TaskFile
import AlertEngine.Text.Word

/-! # Replays

A replay feeds the samples of a file, one a line, to a task and records every announcement.
Blank lines are passed over, and so are samples that cannot be evaluated. The first line that is
no sample ends the replay; what is recorded up to there stands.
-/

namespace AlertEngine

/-- The states before and after, and the message. -/
def Announcement.record (a : Announcement) : String :=
  (a.transition.overall.before.elim "null" AlertState.text) ++ " -> "
    ++ a.transition.overall.after.text ++ ": " ++ a.message.getD "-"

structure Replay where
  records : List String
  /-- The number of the line that is no sample. -/
  badLine : Option Nat
  deriving Repr, DecidableEq

namespace Replay

def empty : Replay := ⟨[], none⟩

/-- Put a record, if there is one, in front. -/
def after (record : Option String) (replay : Replay) : Replay :=
  { replay with records := record.toList ++ replay.records }

def sample? (line : String) : Option Sample :=
  (Json.read? line).bind Sample.ofJson?

/-- The record of processing a sample; a sample that fails leaves none. -/
def recordOf : Except MonitorError (Option Announcement) → Option String
  | .ok announcement => announcement.map Announcement.record
  | .error _ => none

/-- Replay lines, the first of which has the given number. -/
def ofLines [PatternLanguage] (m : Monitor) (number : Nat) : List String → Replay
  | [] => empty
  | line :: rest =>
    if Text.isBlankText line then ofLines m (number + 1) rest
    else
      match sample? line with
      | none => ⟨[], some number⟩
      | some sample =>
        let (next, outcome) := m.process sample
        (ofLines next (number + 1) rest).after (recordOf outcome)

def lines (text : String) : List String :=
  (pieces '\n' text.toList).map String.ofList

def ofText [PatternLanguage] (m : Monitor) (text : String) : Replay :=
  ofLines m 1 (lines text)

/-- Every record on a line of its own. -/
def output (replay : Replay) : String :=
  String.join (replay.records.map (· ++ "\n"))

/-- What is wrong with the samples. -/
def complaint? (replay : Replay) : Option String :=
  replay.badLine.map fun number => "Error: Invalid sample on line " ++ toString number

/-- The files and the environment of a replay. A file that does not exist has no text. -/
structure Input where
  settingsText : Option String
  leadingName : String := Environment.engineName
  environment : List Environment.Variable
  taskPath : String
  taskText : String
  samplesText : Option String

/-- Why a replay does not begin. -/
inductive Failure where
  | settings
  | task (error : TaskFileError)
  | config (error : ConfigError AlertState)
  | noSamples

def Failure.message : Failure → String
  | .settings => "The settings cannot be loaded"
  | .task error => error.message
  | .config error => error.message AlertState.name
  | .noSamples => "Failed to open samples"

def run [PatternLanguage] (input : Input) (newId : Uuid) : Except Failure Replay :=
  match Settings.load? input.settingsText input.leadingName input.environment with
  | none => .error .settings
  | some settings =>
    match TaskFile.load input.taskPath input.taskText (some settings) newId with
    | .error e => .error (.task e)
    | .ok loaded =>
      match Monitor.ofTask loaded.task, input.samplesText with
      | .error e, _ => .error (.config e)
      | .ok _, none => .error .noSamples
      | .ok m, some samples => .ok (ofText m samples)

end Replay

end AlertEngine
