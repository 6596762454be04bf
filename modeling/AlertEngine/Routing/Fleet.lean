import AlertEngine.Routing.ConsistentHash
import AlertEngine.Routing.Murmur
import AlertEngine.Routing.Settings

/-! # Fleets of engines

Every routing key belongs to one partition, and every partition to one engine, if it has one. A
fleet knows its engines by partition; whether they are computed from ports or listed by a
service makes no difference to how they are picked.
-/

namespace AlertEngine

structure RoutingKey where
  tenant : String
  resource : String
  collection : String
  deriving Repr, DecidableEq

inductive DiscoveryError where
  | noPartitions
  | notConfigured
  | outOfRange (partition partitions : Nat)
  /-- A request failed, with the status of the answer if there was one. -/
  | request (status : Option Nat)
  deriving Repr, DecidableEq

def DiscoveryError.message : DiscoveryError → String
  | .noPartitions => "No event engine partitions available"
  | .notConfigured => "No discovery strategy configured"
  | .outOfRange partition partitions =>
    "Partition " ++ toString partition ++ " out of range, " ++ toString partitions
      ++ " known instances"
  | .request _ => "HTTP error"

namespace RoutingKey

def hash (key : RoutingKey) (seed : UInt32) : UInt64 :=
  Murmur.hashTexts seed [key.tenant, key.resource, key.collection]

/-- The partition of a key among `partitions`. -/
def partition (key : RoutingKey) (seed : UInt32) (partitions : Nat) :
    Except DiscoveryError Nat :=
  if partitions = 0 then .error .noPartitions
  else .ok (ConsistentHash.bucket (key.hash seed) partitions)

end RoutingKey

structure Engine where
  host : String
  port : UInt16
  partition : Nat
  deriving Repr, DecidableEq

def Engine.display (e : Engine) : String :=
  e.host ++ ":" ++ toString e.port.toNat ++ "#" ++ toString e.partition

/-- A key that changes its partition, with the engines of both as far as they are known. -/
structure EngineMove where
  fromPartition : Nat
  toPartition : Nat
  fromEngine : Option Engine
  toEngine : Option Engine
  deriving Repr, DecidableEq

structure Fleet where
  seed : UInt32
  /-- How many partitions there are. -/
  partitions : Nat
  /-- The engine of a partition. -/
  engine? : Nat → Option Engine
  /-- The known engines in the order of their partitions. -/
  engines : List Engine

namespace Fleet

def pickByPartition (fleet : Fleet) (partition : Nat) : Except DiscoveryError Engine :=
  match fleet.engine? partition with
  | some engine => .ok engine
  | none => .error (.outOfRange partition fleet.partitions)

/-- The engine that is responsible for a key. -/
def pickRecipient (fleet : Fleet) (key : RoutingKey) : Except DiscoveryError Engine :=
  match key.partition fleet.seed fleet.partitions with
  | .ok partition => fleet.pickByPartition partition
  | .error e => .error e

/-- The engine of a partition, where it is no failure that there is none. -/
def resolve (fleet : Fleet) (partition : Nat) : Except DiscoveryError (Option Engine) :=
  match fleet.pickByPartition partition with
  | .ok engine => .ok (some engine)
  | .error (.outOfRange _ _) => .ok none
  | .error e => .error e

/-- Where a key moves when the number of partitions changes, if it moves. -/
def computeMove (fleet : Fleet) (key : RoutingKey) (before after : Nat) :
    Except DiscoveryError (Option EngineMove) := do
  let source ← key.partition fleet.seed before
  let target ← key.partition fleet.seed after
  if source = target then pure none
  else
    let fromEngine ← fleet.resolve source
    let toEngine ← fleet.resolve target
    pure (some ⟨source, target, fromEngine, toEngine⟩)

end Fleet

namespace PortStrategy

/-- The engine of a partition, if its port exists; the number of partitions is no bound. -/
def engine? (s : PortStrategy) (partition : Nat) : Option Engine :=
  let port := s.startingPort.toNat + partition
  if port < UInt16.size then some ⟨s.host, UInt16.ofNat port, partition⟩ else none

def fleet (s : PortStrategy) (seed : UInt32) : Fleet :=
  let reachable := min s.partitions.toNat (UInt16.size - s.startingPort.toNat)
  { seed := seed
    partitions := s.partitions.toNat
    engine? := s.engine?
    engines := (List.range reachable).filterMap s.engine? }

end PortStrategy

/-- A fleet of listed engines; the partition of an engine is its place in the list. -/
def Fleet.ofList (engines : List Engine) (seed : UInt32) : Fleet :=
  { seed := seed
    partitions := engines.length
    engine? := fun partition => engines[partition]?
    engines := engines }

/-- The fleet that settings describe. Ports come before a service, of which no engine is known
    at first. -/
def Fleet.ofSettings (s : DiscoverySettings) : Except DiscoveryError Fleet :=
  match s.ports, s.service with
  | some ports, _ => .ok (ports.fleet s.hashSeed)
  | none, some _ => .ok (.ofList [] s.hashSeed)
  | none, none => .error .notConfigured

end AlertEngine
