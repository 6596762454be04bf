import AlertEngine.Decimal.Shortest
import AlertEngine.Document.Settings
import AlertEngine.Settings.Environment
import AlertEngine.Toml.Reader

/-! # Loading settings

The defaults lie below the settings file, and that below the environment. The settings are then
read from what the layers set together, where truth values, numbers and texts stand for each
other as far as they can.
-/

namespace AlertEngine

namespace Setting

variable {α : Type}

/-- The words for a truth value. -/
def word? (text : String) : Option Bool :=
  match String.ofList (text.toList.map Char.toLower) with
  | "true" | "on" | "yes" => some true
  | "false" | "off" | "no" => some false
  | _ => none

/-- A whole number as text, with or without a plus sign. -/
def natural? (text : String) : Option Nat :=
  match text.toList with
  | '+' :: digits => Decimal.natural? digits
  | digits => Decimal.natural? digits

/-- A whole number below `bound`. A double counts as the nearest whole number, a half away from
    zero, and is held between zero and the greatest number of 64 bits. -/
def natBelow? (bound : Nat) (setting : Setting) : Option Nat :=
  let value : Option Nat :=
    match setting with
    | .bool value => some value.toNat
    | .int value => if 0 ≤ value then some value.toNat else none
    | .float value => some value.round.toUInt64.toNat
    | .string text => ((word? text).map Bool.toNat).or (natural? text)
    | .unset | .list _ | .table _ => none
  value.filter (· < bound)

def uint16? (setting : Setting) : Option UInt16 :=
  (setting.natBelow? UInt16.size).map UInt16.ofNat

def uint32? (setting : Setting) : Option UInt32 :=
  (setting.natBelow? UInt32.size).map UInt32.ofNat

def uint64? (setting : Setting) : Option UInt64 :=
  (setting.natBelow? UInt64.size).map UInt64.ofNat

/-- A text, or the plain text of a truth value or a number. -/
def text? : Setting → Option String
  | .bool value => some (if value then "true" else "false")
  | .int value => some (toString value)
  | .float value => some (Decimal.plainText value)
  | .string text => some text
  | .unset | .list _ | .table _ => none

def optional? (read : Setting → Option α) : Setting → Option (Option α)
  | .unset => some none
  | setting => (read setting).map some

/-- The fields of a section by name; a list gives them by position. -/
def fields? (names : List String) : Setting → Option Entries
  | .table entries => some entries
  | .list items => some (names.zip items)
  | _ => none

def required? (fields : Entries) (name : String) (read : Setting → Option α) : Option α :=
  (fields.lookup name).bind read

def given? (fields : Entries) (name : String) (read : Setting → Option α) (default : α) :
    Option α :=
  match fields.lookup name with
  | none => some default
  | some setting => read setting

end Setting

open Setting

def PortStrategy.ofSetting? (setting : Setting) : Option PortStrategy := do
  let fields ← setting.fields? ["partitions", "starting_port", "host"]
  let default : PortStrategy := {}
  let partitions ← given? fields "partitions" uint64? default.partitions
  let startingPort ← given? fields "starting_port" uint16? default.startingPort
  let host ← given? fields "host" text? default.host
  pure ⟨partitions, startingPort, host⟩

def ServiceStrategy.ofSetting? (setting : Setting) : Option ServiceStrategy := do
  let fields ← setting.fields? ServiceStrategy.fieldNames
  let default : ServiceStrategy := {}
  let apiUrl ← given? fields "api_url" text? default.apiUrl
  let serviceName ← given? fields "service_name" text? default.serviceName
  let namespaceName ← given? fields "namespace" text? default.namespaceName
  let readTimeout ← given? fields "read_timeout" uint64? default.readTimeout
  let pollInterval ← given? fields "poll_interval" uint64? default.pollInterval
  let restartDelay ← given? fields "restart_delay" uint64? default.restartDelay
  let bearerToken ← given? fields "bearer_token" (optional? text?) none
  pure ⟨apiUrl, serviceName, namespaceName, readTimeout, pollInterval, restartDelay,
    bearerToken⟩

def DiscoverySettings.ofSetting? (setting : Setting) : Option DiscoverySettings := do
  let fields ← setting.fields? ["hash_function_seed", "port_strategy", "kubernetes_strategy"]
  let seed ← given? fields "hash_function_seed" uint32? 0
  let ports ← given? fields "port_strategy" (optional? PortStrategy.ofSetting?) none
  let service ← given? fields "kubernetes_strategy" (optional? ServiceStrategy.ofSetting?) none
  pure ⟨seed, ports, service⟩

def SystemSettings.ofSetting? (setting : Setting) : Option SystemSettings := do
  let fields ← setting.fields? ["name", "version"]
  let name ← required? fields "name" text?
  let version ← required? fields "version" text?
  pure ⟨name, version⟩

def ProcessorSettings.ofSetting? (setting : Setting) : Option ProcessorSettings := do
  let fields ← setting.fields? ["default_quorum_count", "default_consecutive_count"]
  let quorum ← given? fields "default_quorum_count" uint64? 1
  let consecutive ← given? fields "default_consecutive_count" uint32? 1
  pure ⟨quorum, consecutive⟩

namespace Settings

def ofSetting? (setting : Setting) : Option Settings := do
  let fields ← setting.fields? ["system", "processor", "discovery"]
  let system ← given? fields "system" SystemSettings.ofSetting? {}
  let processor ← given? fields "processor" ProcessorSettings.ofSetting? {}
  let discovery ← given? fields "discovery" DiscoverySettings.ofSetting? {}
  pure ⟨system, processor, discovery⟩

/-- The paths of all settings. -/
def paths : List (List String) :=
  let port := ["partitions", "starting_port", "host"].map (["discovery", "port_strategy", ·])
  let service := ServiceStrategy.fieldNames.map (["discovery", "kubernetes_strategy", ·])
  [["system", "name"], ["system", "version"], ["processor", "default_quorum_count"],
    ["processor", "default_consecutive_count"], ["discovery", "hash_function_seed"]]
    ++ port ++ service

/-- The settings of a file; no file sets nothing. -/
def fileLayer? : Option String → Option Setting.Entries
  | none => some []
  | some text => (Toml.read? text).map fun toml => (Setting.ofToml toml).entries

/-- Load the settings from the text of the settings file and the environment. -/
def load? (file : Option String) (lead : String) (environment : List Environment.Variable) :
    Option Settings := do
  let defaults := Setting.ofJson (toJson {})
  let fileLayer ← fileLayer? file
  ofSetting? ((defaults.overlay fileLayer).overlay (Environment.layer lead environment))

end Settings

end AlertEngine
