/-! # Arguments of a replay

Three options, each with a value: behind the name, joined to a long name by `=`, or joined to a
short one. The task and the samples have to be named.
-/

namespace AlertEngine.Replay

inductive Flag where
  | settingsFolder
  | task
  | samples
  deriving Repr, DecidableEq

namespace Flag

def longName : Flag → String
  | .settingsFolder => "--config-dir"
  | .task => "--task"
  | .samples => "--samples"

def shortName : Flag → String
  | .settingsFolder => "-c"
  | .task => "-t"
  | .samples => "-s"

def all : List Flag := [.settingsFolder, .task, .samples]

def ofName? (name : String) : Option Flag :=
  all.find? fun flag => flag.longName = name || flag.shortName = name

end Flag

inductive UsageError where
  | unexpected (argument : String)
  | noValue (flag : Flag)
  | repeated (flag : Flag)
  | absent (flag : Flag)
  deriving Repr, DecidableEq

def UsageError.message : UsageError → String
  | .unexpected argument => "unexpected argument: " ++ argument
  | .noValue flag => "a value is required for " ++ flag.longName
  | .repeated flag => flag.longName ++ " cannot be used multiple times"
  | .absent flag => flag.longName ++ " is required"

structure Arguments where
  settingsFolder : String := "config"
  task : String
  samples : String
  deriving Repr, DecidableEq

namespace Arguments

/-- The option that an argument names, and the value that is joined to it. -/
def option? (argument : String) : Option (Flag × Option String) :=
  let chars := argument.toList
  if "--".toList.isPrefixOf chars then
    match chars.span (· ≠ '=') with
    | (name, _ :: value) =>
      (Flag.ofName? (String.ofList name)).map (·, some (String.ofList value))
    | (_, []) => (Flag.ofName? argument).map (·, none)
  else
    let flag := Flag.ofName? (String.ofList (chars.take 2))
    match chars.drop 2 with
    | [] => flag.map (·, none)
    | '=' :: value => flag.map (·, some (String.ofList value))
    | value => flag.map (·, some (String.ofList value))

/-- The options in order. -/
def options : List String → Except UsageError (List (Flag × String))
  | [] => .ok []
  | argument :: rest =>
    match option? argument, rest with
    | none, _ => .error (.unexpected argument)
    | some (flag, some value), rest => do pure ((flag, value) :: (← options rest))
    | some (flag, none), value :: rest => do pure ((flag, value) :: (← options rest))
    | some (flag, none), [] => .error (.noValue flag)

def ofList (arguments : List String) : Except UsageError Arguments := do
  let options ← options arguments
  let value? (flag : Flag) : Except UsageError (Option String) :=
    match options.filter (·.1 = flag) with
    | [] => .ok none
    | [(_, value)] => .ok (some value)
    | _ => .error (.repeated flag)
  let required (flag : Flag) : Except UsageError String := do
    match ← value? flag with
    | some value => pure value
    | none => throw (.absent flag)
  let settingsFolder ← value? .settingsFolder
  let task ← required .task
  let samples ← required .samples
  pure ⟨settingsFolder.getD "config", task, samples⟩

end Arguments

end AlertEngine.Replay
