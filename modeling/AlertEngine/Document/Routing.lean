import AlertEngine.Document.Record
import AlertEngine.Json.Reader
import AlertEngine.Routing.Poll

/-! # Engines and endpoints as documents -/

namespace AlertEngine

open Document

namespace RoutingKey

def ofJson? : Reader RoutingKey := fun json => do
  let record ← Record.ofJson? ["tenant_id", "resource_id", "collection_name"] json
  let tenant ← record.required "tenant_id" text
  let resource ← record.required "resource_id" text
  let collection ← record.required "collection_name" text
  pure ⟨tenant, resource, collection⟩

def toJson (key : RoutingKey) : Json :=
  .object [("tenant_id", .string key.tenant), ("resource_id", .string key.resource),
    ("collection_name", .string key.collection)]

end RoutingKey

namespace Engine

def ofJson? : Reader Engine := fun json => do
  let record ← Record.ofJson? ["host", "port", "partition"] json
  let host ← record.required "host" text
  let port ← record.required "port" uint16
  let partition ← record.required "partition" (natBelow UInt64.size)
  pure ⟨host, port, partition⟩

def toJson (e : Engine) : Json :=
  .object [("host", .string e.host), ("port", .nat e.port.toNat),
    ("partition", .nat e.partition)]

end Engine

namespace EngineMove

def ofJson? : Reader EngineMove := fun json => do
  let record ← Record.ofJson? ["from_partition", "to_partition", "from", "to"] json
  let fromPartition ← record.required "from_partition" (natBelow UInt64.size)
  let toPartition ← record.required "to_partition" (natBelow UInt64.size)
  let fromEngine ← record.optionalNamed "from" Engine.ofJson?
  let toEngine ← record.optionalNamed "to" Engine.ofJson?
  pure ⟨fromPartition, toPartition, fromEngine, toEngine⟩

def toJson (m : EngineMove) : Json :=
  .object [("from_partition", .nat m.fromPartition), ("to_partition", .nat m.toPartition),
    ("from", m.fromEngine.elim .null Engine.toJson),
    ("to", m.toEngine.elim .null Engine.toJson)]

end EngineMove

namespace EndpointAddress

def ofJson? : Reader EndpointAddress := fun json => do
  let record ← Record.ofJson? ["ip", "hostname"] json
  let ip ← record.required "ip" text
  let hostname ← record.optional "hostname" text
  pure ⟨ip, hostname⟩

def toJson (a : EndpointAddress) : Json :=
  .object [("ip", .string a.ip), ("hostname", a.hostname.elim .null .string)]

end EndpointAddress

namespace EndpointPort

def ofJson? : Reader EndpointPort := fun json => do
  let record ← Record.ofJson? ["port", "name"] json
  let port ← record.required "port" uint16
  let name ← record.optional "name" text
  pure ⟨port, name⟩

def toJson (p : EndpointPort) : Json :=
  .object [("port", .nat p.port.toNat), ("name", p.name.elim .null .string)]

end EndpointPort

namespace EndpointSubset

def ofJson? : Reader EndpointSubset := fun json => do
  let record ← Record.ofJson? ["addresses", "ports"] json
  let addresses ← record.withDefault "addresses" (list EndpointAddress.ofJson?) []
  let ports ← record.withDefault "ports" (list EndpointPort.ofJson?) []
  pure ⟨addresses, ports⟩

def toJson (s : EndpointSubset) : Json :=
  .object [("addresses", .array (s.addresses.map EndpointAddress.toJson)),
    ("ports", .array (s.ports.map EndpointPort.toJson))]

end EndpointSubset

/-- The endpoints in the body of an answer. -/
def Endpoints.ofBody? (body : String) : Option (List EndpointSubset) := do
  let json ← Json.read? body
  let record ← Record.ofJson? ["subsets"] json
  record.withDefault "subsets" (list EndpointSubset.ofJson?) []

/-- What comes of one request. -/
inductive Exchange where
  | unreachable
  | answered (status : Nat) (body : String)
  deriving Repr, DecidableEq

namespace Exchange

/-- A service that is not found has no endpoints; any other status of an error is a failure, and
    so is a body that cannot be read. -/
def endpoints : Exchange → Except DiscoveryError Endpoints
  | .unreachable => .error (.request none)
  | .answered status body =>
    if status = 404 then .ok none
    else if 400 ≤ status ∧ status < 600 then .error (.request (some status))
    else
      match Endpoints.ofBody? body with
      | some subsets => .ok (some subsets)
      | none => .error (.request none)

end Exchange

end AlertEngine
