import AlertEngine.Routing.Fleet

/-! # Endpoints of a service

A service lists its endpoints in subsets of addresses and ports. Every port of a subset is open
on every address of it, and engines are numbered in that order.
-/

namespace AlertEngine

structure EndpointAddress where
  ip : String
  hostname : Option String
  deriving Repr, DecidableEq

/-- The name of a host counts before its address. -/
def EndpointAddress.host (address : EndpointAddress) : String :=
  address.hostname.getD address.ip

structure EndpointPort where
  port : UInt16
  name : Option String
  deriving Repr, DecidableEq

structure EndpointSubset where
  addresses : List EndpointAddress := []
  ports : List EndpointPort := []
  deriving Repr, DecidableEq

/-- Hosts and ports in the order in which engines are numbered. -/
def EndpointSubset.sites (subset : EndpointSubset) : List (String × UInt16) :=
  subset.ports.flatMap fun port =>
    subset.addresses.map fun address => (address.host, port.port)

namespace EndpointSubset

theorem length_sites (subset : EndpointSubset) :
    subset.sites.length = subset.ports.length * subset.addresses.length := by
  obtain ⟨addresses, ports⟩ := subset
  induction ports with
  | nil => simp [sites]
  | cons port ports ih =>
      simp only [sites] at ih
      rw [sites, List.flatMap_cons, List.length_append, ih, List.length_map, List.length_cons,
        Nat.succ_mul, Nat.add_comm]

theorem getElem?_sites {subset : EndpointSubset} {i j : Nat} {port : EndpointPort}
    {address : EndpointAddress} (opened : subset.ports[i]? = some port)
    (known : subset.addresses[j]? = some address) :
    subset.sites[i * subset.addresses.length + j]? = some (address.host, port.port) := by
  obtain ⟨addresses, ports⟩ := subset
  obtain ⟨inside, -⟩ := List.getElem?_eq_some_iff.1 known
  simp only [sites] at *
  induction ports generalizing i with
  | nil => cases opened
  | cons first ports ih =>
      rw [List.flatMap_cons]
      cases i with
      | zero =>
          obtain rfl : first = port := Option.some.inj opened
          rw [Nat.zero_mul, Nat.zero_add, List.getElem?_append_left (by simpa using inside),
            List.getElem?_map, known, Option.map_some]
      | succ i =>
          rw [Nat.succ_mul, Nat.add_right_comm, List.getElem?_append_right (by simp),
            List.length_map, Nat.add_sub_cancel]
          exact ih opened

end EndpointSubset

/-- The engines of a service, numbered through all its subsets. -/
def Engine.ofSubsets (subsets : List EndpointSubset) : List Engine :=
  (subsets.flatMap EndpointSubset.sites).mapIdx fun partition site =>
    ⟨site.1, site.2, partition⟩

/-- A change of the endpoints of a service. -/
inductive EndpointEvent where
  | added (subsets : List EndpointSubset)
  | modified (subsets : List EndpointSubset)
  | deleted
  deriving Repr, DecidableEq

/-- The engines after an event; what was listed before does not matter. -/
def EndpointEvent.engines : EndpointEvent → List Engine
  | .added subsets | .modified subsets => Engine.ofSubsets subsets
  | .deleted => []

end AlertEngine
