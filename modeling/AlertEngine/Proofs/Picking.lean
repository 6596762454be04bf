import AlertEngine.Proofs.SteadyBuckets
import AlertEngine.Proofs.WatcherRun
import Mathlib.Data.List.Basic

/-! # Picking engines

A fleet can be asked for all of its engines, for the engine of a partition and for the engine of a
key. The answers agree: the partition of an engine is its place among all, whether engines are
computed from ports or listed by a service, and the partition of a key is always one of those there
are.
-/

namespace AlertEngine

namespace RoutingKey

variable {key : RoutingKey} {seed : UInt32} {partitions partition : Nat} {e : DiscoveryError}

theorem partition_eq_ok_iff :
    key.partition seed partitions = .ok partition ↔
      partitions ≠ 0 ∧ partition = ConsistentHash.bucket (key.hash seed) partitions := by
  unfold RoutingKey.partition
  split
  · next none => simp [none]
  · next some => simp [some, eq_comm]

theorem partition_eq_error_iff :
    key.partition seed partitions = .error e ↔ partitions = 0 ∧ e = .noPartitions := by
  unfold RoutingKey.partition
  split
  · next none => simp [none, eq_comm]
  · next some => simp [some]

theorem partition_lt (placed : key.partition seed partitions = .ok partition) :
    partition < partitions := by
  obtain ⟨some, rfl⟩ := partition_eq_ok_iff.1 placed
  exact (ConsistentHash.steady_bucket _).within partitions (Nat.pos_of_ne_zero some)

end RoutingKey

namespace Fleet

variable {fleet : Fleet} {seed : UInt32} {partitions partition : Nat} {key : RoutingKey}
  {engine : Engine} {e : DiscoveryError}

theorem pickByPartition_eq_ok_iff :
    fleet.pickByPartition partition = .ok engine ↔ fleet.engine? partition = some engine := by
  unfold pickByPartition
  cases fleet.engine? partition <;> simp

theorem pickByPartition_eq_error_iff :
    fleet.pickByPartition partition = .error e ↔
      fleet.engine? partition = none ∧ e = .outOfRange partition fleet.partitions := by
  unfold pickByPartition
  cases fleet.engine? partition <;> simp [eq_comm]

theorem pickRecipient_eq_ok_iff :
    fleet.pickRecipient key = .ok engine ↔
      ∃ partition, key.partition fleet.seed fleet.partitions = .ok partition ∧
        fleet.engine? partition = some engine := by
  unfold pickRecipient
  cases key.partition fleet.seed fleet.partitions with
  | error e => simp
  | ok partition => simp [pickByPartition_eq_ok_iff]

theorem pickRecipient_eq_error_iff :
    fleet.pickRecipient key = .error e ↔
      fleet.partitions = 0 ∧ e = .noPartitions ∨
      ∃ partition, key.partition fleet.seed fleet.partitions = .ok partition ∧
        fleet.engine? partition = none ∧ e = .outOfRange partition fleet.partitions := by
  have unplaced : key.partition fleet.seed fleet.partitions = .error e ↔ _ :=
    RoutingKey.partition_eq_error_iff
  rw [← unplaced]
  unfold pickRecipient
  cases key.partition fleet.seed fleet.partitions with
  | error e => simp
  | ok partition => simp [pickByPartition_eq_error_iff]

/-- Engines carry their partitions, and those of the partitions that count are listed in order. -/
structure Numbered (fleet : Fleet) : Prop where
  partition : ∀ k engine, fleet.engine? k = some engine → engine.partition = k
  listed : ∀ k engine,
    fleet.engines[k]? = some engine ↔ k < fleet.partitions ∧ fleet.engine? k = some engine

/-- The ways of picking agree, for keys that are spread over so many partitions. -/
structure Agreeing (fleet : Fleet) (seed : UInt32) (partitions : Nat) : Prop where
  /-- An engine is listed in the place of its partition. -/
  listed : ∀ k engine, fleet.engines[k]? = some engine →
    engine.partition = k ∧ fleet.pickByPartition k = .ok engine
  /-- The engine of a key is the one that is listed for the partition of the key. -/
  recipient : ∀ key engine, fleet.pickRecipient key = .ok engine →
    key.partition seed partitions = .ok engine.partition ∧
      fleet.engines[engine.partition]? = some engine

theorem Numbered.agreeing (numbered : Numbered fleet) :
    Agreeing fleet fleet.seed fleet.partitions where
  listed k engine found := by
    obtain ⟨-, known⟩ := (numbered.listed k engine).1 found
    exact ⟨numbered.partition k engine known, pickByPartition_eq_ok_iff.2 known⟩
  recipient key engine picked := by
    obtain ⟨partition, placed, known⟩ := pickRecipient_eq_ok_iff.1 picked
    obtain rfl : engine.partition = partition := numbered.partition partition engine known
    have inside : engine.partition < fleet.partitions := RoutingKey.partition_lt placed
    exact ⟨placed, (numbered.listed _ engine).2 ⟨inside, known⟩⟩

end Fleet

namespace PortStrategy

variable {s : PortStrategy} {seed : UInt32} {k : Nat} {engine : Engine}

/-- The engine of a partition whose port exists. -/
def onPort (s : PortStrategy) (partition : Nat) : Engine :=
  ⟨s.host, UInt16.ofNat (s.startingPort.toNat + partition), partition⟩

theorem engine?_of_lt (inside : s.startingPort.toNat + k < UInt16.size) :
    s.engine? k = some (s.onPort k) :=
  if_pos inside

theorem engine?_eq_none_iff : s.engine? k = none ↔ 65535 < s.startingPort.toNat + k := by
  by_cases inside : s.startingPort.toNat + k < UInt16.size
  · simp [engine?_of_lt inside, Nat.le_of_lt_succ inside]
  · exact iff_of_true (if_neg inside) (Nat.lt_of_succ_le (Nat.le_of_not_lt inside))

theorem engine?_eq_some_iff :
    s.engine? k = some engine ↔
      engine.host = s.host ∧ engine.port.toNat = s.startingPort.toNat + k ∧
        engine.partition = k := by
  constructor
  · intro known
    have inside : s.startingPort.toNat + k < UInt16.size := by
      by_contra outside
      simp [engine?, outside] at known
    obtain rfl : s.onPort k = engine := by simpa [engine?_of_lt inside] using known
    exact ⟨rfl, UInt16.toNat_ofNat_of_lt' inside, rfl⟩
  · obtain ⟨host, port, partition⟩ := engine
    rintro ⟨rfl, counted, rfl⟩
    have inside : s.startingPort.toNat + partition < UInt16.size := counted ▸ port.toNat_lt
    rw [engine?_of_lt inside, onPort, ← counted, UInt16.ofNat_toNat]

/-- How many partitions have a port. -/
def reachable (s : PortStrategy) : Nat :=
  min s.partitions.toNat (UInt16.size - s.startingPort.toNat)

theorem lt_reachable_iff :
    k < s.reachable ↔ k < s.partitions.toNat ∧ s.startingPort.toNat + k < UInt16.size := by
  simp only [reachable, Nat.lt_min, Nat.lt_sub_iff_add_lt']

theorem engines_eq_map : (s.fleet seed).engines = (List.range s.reachable).map s.onPort := by
  refine List.filterMap_eq_map_iff_forall_eq_some.2 fun k listed => engine?_of_lt ?_
  exact (lt_reachable_iff.1 (List.mem_range.1 listed)).2

/-- The engines are listed up to the last port, behind which there are none to be listed. -/
theorem engines_eq_filterMap :
    (s.fleet seed).engines = (List.range s.partitions.toNat).filterMap s.engine? := by
  obtain ⟨beyond, all⟩ : ∃ beyond, s.partitions.toNat = s.reachable + beyond :=
    Nat.exists_eq_add_of_le (Nat.min_le_left _ _)
  have unlisted : ((List.range beyond).map (s.reachable + ·)).filterMap s.engine? = [] := by
    simp only [List.filterMap_eq_nil_iff, List.mem_map, List.mem_range, forall_exists_index,
      and_imp, engine?_eq_none_iff]
    rintro _ k inside rfl
    simp only [reachable, UInt16.size] at all ⊢
    omega
  rw [all, List.range_add, List.filterMap_append, unlisted, List.append_nil]
  rfl

theorem numbered_fleet (s : PortStrategy) (seed : UInt32) : (s.fleet seed).Numbered where
  partition k engine known := (engine?_eq_some_iff.1 known).2.2
  listed k engine := by
    rw [engines_eq_map, List.getElem?_map]
    by_cases inside : k < s.reachable
    · have port := lt_reachable_iff.1 inside
      rw [List.getElem?_range inside, Option.map_some, ← engine?_of_lt port.2]
      exact (and_iff_right port.1).symm
    · rw [List.getElem?_eq_none (by simpa using inside), Option.map_none]
      refine iff_of_false nofun fun ⟨counted, known⟩ => inside (lt_reachable_iff.2 ⟨counted, ?_⟩)
      exact (engine?_eq_some_iff.1 known).2.1 ▸ engine.port.toNat_lt

end PortStrategy

theorem Fleet.numbered_ofList {engines : List Engine} (inPlace : Engine.InPlace engines)
    (seed : UInt32) : (Fleet.ofList engines seed).Numbered where
  partition k engine known := inPlace k engine known
  listed k engine := by
    refine (and_iff_right_of_imp fun found => ?_).symm
    exact (List.getElem?_eq_some_iff.1 found).1

/-- The picks agree, in a fleet on ports as well as in one that a service lists, whatever has
    happened to its watcher by then. -/
theorem agreeing_picks (seed : UInt32) :
    (∀ s : PortStrategy,
      let fleet := s.fleet seed
      let partitions := s.partitions.toNat
      let port := fun k => s.startingPort.toNat + k
      fleet.Agreeing seed partitions ∧
      fleet.engines.length = min partitions (65536 - s.startingPort.toNat) ∧
      (∀ k engine, fleet.engines[k]? = some engine →
        engine.host = s.host ∧ engine.port.toNat = port k) ∧
      fleet.engines = (List.range partitions).filterMap s.engine? ∧
      ∀ (key : RoutingKey) (e : DiscoveryError), fleet.pickRecipient key = .error e ↔
        partitions = 0 ∧ e = .noPartitions ∨
        ∃ k, key.partition seed partitions = .ok k ∧ 65535 < port k ∧
          e = .outOfRange k partitions) ∧
    ∀ script turns,
      let w := (ServiceWatcher.new seed script).run turns
      w.fleet.Agreeing seed w.engines.length ∧
      w.fleet.engines = w.engines ∧
      (∀ (key : RoutingKey) k, key.partition seed w.engines.length = .ok k → k < w.engines.length) ∧
      ∀ (key : RoutingKey) (e : DiscoveryError),
        w.fleet.pickRecipient key = .error e ↔ w.engines = [] ∧ e = .noPartitions := by
  constructor
  · intro s fleet partitions port
    have numbered := s.numbered_fleet seed
    refine ⟨numbered.agreeing, ?_, ?_, PortStrategy.engines_eq_filterMap, ?_⟩
    · rw [PortStrategy.engines_eq_map, List.length_map, List.length_range]
      rfl
    · intro k engine found
      obtain ⟨host, counted, -⟩ :=
        PortStrategy.engine?_eq_some_iff.1 ((numbered.listed k engine).1 found).2
      exact ⟨host, counted⟩
    · intro key e
      rw [Fleet.pickRecipient_eq_error_iff]
      simp only [← PortStrategy.engine?_eq_none_iff, port]
      rfl
  · intro script turns w
    have tidy : w.Tidy seed := (ServiceWatcher.tidy_new seed script).run turns
    have numbered : w.fleet.Numbered := Fleet.numbered_ofList tidy.inPlace w.seed
    have agreeing : w.fleet.Agreeing w.seed w.engines.length := numbered.agreeing
    rw [tidy.seed] at agreeing
    refine ⟨agreeing, rfl, fun _ _ => RoutingKey.partition_lt, fun key e => ?_⟩
    rw [Fleet.pickRecipient_eq_error_iff, or_iff_left]
    · exact and_congr_left' List.length_eq_zero_iff
    · rintro ⟨k, placed, missing, -⟩
      exact Nat.not_le_of_lt (RoutingKey.partition_lt placed) (List.getElem?_eq_none_iff.1 missing)

example :
    ((⟨3, 65535, "localhost"⟩ : PortStrategy).fleet 0).engines = [⟨"localhost", 65535, 0⟩] := by
  decide +kernel

example : ((⟨3, 65535, "localhost"⟩ : PortStrategy).fleet 0).pickRecipient ⟨"t-1", "r-1", "cpu"⟩ =
    .error (.outOfRange 2 3) := by
  decide +kernel

end AlertEngine
