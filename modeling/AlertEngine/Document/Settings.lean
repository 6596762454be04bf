import AlertEngine.Document.Record
import AlertEngine.Settings.Basic

/-! # Settings as documents -/

namespace AlertEngine

open Document

namespace PortStrategy

def ofJson? : Reader PortStrategy := fun json => do
  let record ← Record.ofJson? ["partitions", "starting_port", "host"] json
  let default : PortStrategy := {}
  let partitions ← record.withDefault "partitions" uint64 default.partitions
  let startingPort ← record.withDefault "starting_port" uint16 default.startingPort
  let host ← record.withDefault "host" text default.host
  pure ⟨partitions, startingPort, host⟩

def toJson (s : PortStrategy) : Json :=
  .object [("partitions", .nat s.partitions.toNat),
    ("starting_port", .nat s.startingPort.toNat), ("host", .string s.host)]

end PortStrategy

namespace ServiceStrategy

def fieldNames : List String :=
  ["api_url", "service_name", "namespace", "read_timeout", "poll_interval", "restart_delay",
    "bearer_token"]

def ofJson? : Reader ServiceStrategy := fun json => do
  let record ← Record.ofJson? fieldNames json
  let default : ServiceStrategy := {}
  let apiUrl ← record.withDefault "api_url" text default.apiUrl
  let serviceName ← record.withDefault "service_name" text default.serviceName
  let namespaceName ← record.withDefault "namespace" text default.namespaceName
  let readTimeout ← record.withDefault "read_timeout" uint64 default.readTimeout
  let pollInterval ← record.withDefault "poll_interval" uint64 default.pollInterval
  let restartDelay ← record.withDefault "restart_delay" uint64 default.restartDelay
  let bearerToken ← record.optional "bearer_token" text
  pure ⟨apiUrl, serviceName, namespaceName, readTimeout, pollInterval, restartDelay,
    bearerToken⟩

def toJson (s : ServiceStrategy) : Json :=
  .object [("api_url", .string s.apiUrl), ("service_name", .string s.serviceName),
    ("namespace", .string s.namespaceName), ("read_timeout", .nat s.readTimeout.toNat),
    ("poll_interval", .nat s.pollInterval.toNat),
    ("restart_delay", .nat s.restartDelay.toNat),
    ("bearer_token", s.bearerToken.elim .null .string)]

end ServiceStrategy

namespace DiscoverySettings

def ofJson? : Reader DiscoverySettings := fun json => do
  let record ← Record.ofJson? ["hash_function_seed", "port_strategy", "kubernetes_strategy"]
    json
  let seed ← record.withDefault "hash_function_seed" uint32 0
  let ports ← record.optional "port_strategy" PortStrategy.ofJson?
  let service ← record.optional "kubernetes_strategy" ServiceStrategy.ofJson?
  pure ⟨seed, ports, service⟩

def toJson (s : DiscoverySettings) : Json :=
  .object [("hash_function_seed", .nat s.hashSeed.toNat),
    ("port_strategy", s.ports.elim .null PortStrategy.toJson),
    ("kubernetes_strategy", s.service.elim .null ServiceStrategy.toJson)]

end DiscoverySettings

namespace SystemSettings

/-- A section that is given has to give both fields. -/
def ofJson? : Reader SystemSettings := fun json => do
  let record ← Record.ofJson? ["name", "version"] json
  let name ← record.required "name" text
  let version ← record.required "version" text
  pure ⟨name, version⟩

def toJson (s : SystemSettings) : Json :=
  .object [("name", .string s.name), ("version", .string s.version)]

end SystemSettings

namespace ProcessorSettings

def ofJson? : Reader ProcessorSettings := fun json => do
  let record ← Record.ofJson? ["default_quorum_count", "default_consecutive_count"] json
  let quorum ← record.withDefault "default_quorum_count" uint64 1
  let consecutive ← record.withDefault "default_consecutive_count" uint32 1
  pure ⟨quorum, consecutive⟩

def toJson (s : ProcessorSettings) : Json :=
  .object [("default_quorum_count", .nat s.quorum.toNat),
    ("default_consecutive_count", .nat s.consecutive.toNat)]

end ProcessorSettings

namespace Settings

def ofJson? : Reader Settings := fun json => do
  let record ← Record.ofJson? ["system", "processor", "discovery"] json
  let system ← record.withDefault "system" SystemSettings.ofJson? {}
  let processor ← record.withDefault "processor" ProcessorSettings.ofJson? {}
  let discovery ← record.withDefault "discovery" DiscoverySettings.ofJson? {}
  pure ⟨system, processor, discovery⟩

def toJson (s : Settings) : Json :=
  .object [("system", s.system.toJson), ("processor", s.processor.toJson),
    ("discovery", s.discovery.toJson)]

end Settings

end AlertEngine
