import AlertEngine.Pattern.Reader
import AlertEngine.Replay
import AlertEngine.Replay.Arguments

/-! # The replay command

Replays the samples of a file on a task and prints the changes of its overall state.
-/

namespace AlertEngine.Command

/-- The text of a file, if there is one. -/
def readIfPresent (path : String) : IO (Option String) := do
  try
    let text ← IO.FS.readFile path
    pure (some text)
  catch
    | .noFileOrDirectory .. => pure none
    | e => throw e

def environment : IO (List Environment.Variable) :=
  Settings.paths.filterMapM fun path => do
    let name := Environment.nameOf Environment.engineName path
    pure ((← IO.getEnv name).map (name, ·))

def newId : IO Uuid := do
  let bytes ← IO.getRandomBytes 16
  pure (Uuid.ofRandom (bytes.toList.foldl (fun n byte => n * 256 + byte.toNat) 0))

/-- Run a replay and say how it ended. -/
def replay (arguments : Replay.Arguments) : IO UInt32 := do
  let input : Replay.Input := {
    settingsText := ← readIfPresent (arguments.settingsFolder ++ "/event-engine.toml")
    environment := ← environment
    taskPath := arguments.task
    taskText := ← IO.FS.readFile arguments.task
    samplesText := ← readIfPresent arguments.samples }
  match Replay.run input (← newId) with
  | .error failure =>
    IO.eprintln ("Error: " ++ failure.message)
    pure 1
  | .ok replay =>
    IO.print replay.output
    match replay.complaint? with
    | none => pure 0
    | some complaint =>
      IO.eprintln complaint
      pure 1

end AlertEngine.Command

open AlertEngine in
def main (args : List String) : IO UInt32 := do
  match Replay.Arguments.ofList args with
  | .ok arguments => Command.replay arguments
  | .error e =>
    IO.eprintln ("error: " ++ e.message)
    pure 2
