import AlertEngine.Proofs.Picking

/-! # Moves

When the number of partitions changes, a key moves if its partition does. Partitions are steady, so
that a move always leads to a partition that is new, or away from one that is gone. An engine that
is not known is missing from the move and no reason to fail.
-/

namespace AlertEngine

/-- The move the other way. -/
def EngineMove.reversed (move : EngineMove) : EngineMove :=
  ⟨move.toPartition, move.fromPartition, move.toEngine, move.fromEngine⟩

namespace Fleet

variable {fleet : Fleet} {key : RoutingKey} {before after source target : Nat} {move : EngineMove}

/-- The engines of a move are those that are picked for its partitions, as far as there are any. -/
structure Resolved (fleet : Fleet) (move : EngineMove) : Prop where
  source : ∀ engine,
    move.fromEngine = some engine ↔ fleet.pickByPartition move.fromPartition = .ok engine
  target : ∀ engine,
    move.toEngine = some engine ↔ fleet.pickByPartition move.toPartition = .ok engine

theorem resolved_iff :
    fleet.Resolved move ↔ move.fromEngine = fleet.engine? move.fromPartition ∧
      move.toEngine = fleet.engine? move.toPartition := by
  constructor
  · rintro ⟨known, wanted⟩
    simp only [pickByPartition_eq_ok_iff] at known wanted
    exact ⟨Option.ext known, Option.ext wanted⟩
  · rintro ⟨known, wanted⟩
    constructor
    · intro engine
      rw [known, pickByPartition_eq_ok_iff]
    · intro engine
      rw [wanted, pickByPartition_eq_ok_iff]

theorem resolve_eq (fleet : Fleet) (partition : Nat) :
    fleet.resolve partition = .ok (fleet.engine? partition) := by
  rw [resolve, pickByPartition]
  cases fleet.engine? partition <;> rfl

/-- The move between two partitions, if they differ. -/
def move? (fleet : Fleet) (source target : Nat) : Option EngineMove :=
  if source = target then none
  else some ⟨source, target, fleet.engine? source, fleet.engine? target⟩

theorem move?_eq_none_iff : fleet.move? source target = none ↔ source = target := by
  simp [move?]

theorem move?_eq_some_iff :
    fleet.move? source target = some move ↔
      move.fromPartition = source ∧ move.toPartition = target ∧ source ≠ target ∧
        fleet.Resolved move := by
  rw [resolved_iff]
  obtain ⟨_, _, _, _⟩ := move
  unfold move?
  split
  · next same => simp [same]
  · next moved =>
    simp only [Option.some_inj, EngineMove.mk.injEq]
    constructor
    · rintro ⟨rfl, rfl, rfl, rfl⟩
      exact ⟨rfl, rfl, moved, rfl, rfl⟩
    · rintro ⟨rfl, rfl, -, rfl, rfl⟩
      exact ⟨rfl, rfl, rfl, rfl⟩

theorem move?_swap (fleet : Fleet) (source target : Nat) :
    fleet.move? target source = (fleet.move? source target).map EngineMove.reversed := by
  by_cases same : source = target
  · rw [move?_eq_none_iff.2 same, move?_eq_none_iff.2 same.symm, Option.map_none]
  · rw [move?, move?, if_neg same, if_neg (Ne.symm same)]
    rfl

theorem computeMove_cases (fleet : Fleet) (key : RoutingKey) (before after : Nat) :
    ((before = 0 ∨ after = 0) ∧ fleet.computeMove key before after = .error .noPartitions) ∨
    ∃ source target, key.partition fleet.seed before = .ok source ∧
      key.partition fleet.seed after = .ok target ∧
      fleet.computeMove key before after = .ok (fleet.move? source target) := by
  unfold computeMove
  cases placed : key.partition fleet.seed before with
  | error e =>
      obtain ⟨zero, rfl⟩ := RoutingKey.partition_eq_error_iff.1 placed
      exact .inl ⟨.inl zero, rfl⟩
  | ok source =>
      cases replaced : key.partition fleet.seed after with
      | error e =>
          obtain ⟨zero, rfl⟩ := RoutingKey.partition_eq_error_iff.1 replaced
          exact .inl ⟨.inr zero, rfl⟩
      | ok target =>
          refine .inr ⟨source, target, rfl, rfl, ?_⟩
          simp only [move?, resolve_eq, bind, Except.bind]
          split <;> rfl

theorem computeMove_eq_error_iff {e : DiscoveryError} :
    fleet.computeMove key before after = .error e ↔
      (before = 0 ∨ after = 0) ∧ e = .noPartitions := by
  obtain ⟨zero, failed⟩ | ⟨source, target, placed, replaced, answered⟩ :=
    fleet.computeMove_cases key before after
  · simp [failed, zero, eq_comm]
  · have some := (RoutingKey.partition_eq_ok_iff.1 placed).1
    have others := (RoutingKey.partition_eq_ok_iff.1 replaced).1
    simp [answered, some, others]

theorem computeMove_eq_ok_iff {answer : Option EngineMove} :
    fleet.computeMove key before after = .ok answer ↔
      ∃ source target, key.partition fleet.seed before = .ok source ∧
        key.partition fleet.seed after = .ok target ∧ answer = fleet.move? source target := by
  obtain ⟨zero, failed⟩ | ⟨source, target, placed, replaced, answered⟩ :=
    fleet.computeMove_cases key before after
  · simp only [failed, RoutingKey.partition_eq_ok_iff, reduceCtorEq, false_iff]
    rintro ⟨source, target, ⟨some, -⟩, ⟨others, -⟩, -⟩
    exact zero.elim some others
  · simp [answered, placed, replaced, eq_comm]

theorem computeMove_eq_none_iff :
    fleet.computeMove key before after = .ok none ↔
      before ≠ 0 ∧ after ≠ 0 ∧
        key.partition fleet.seed before = key.partition fleet.seed after := by
  simp only [computeMove_eq_ok_iff, eq_comm (a := none), move?_eq_none_iff]
  constructor
  · rintro ⟨partition, _, source, target, rfl⟩
    exact ⟨(RoutingKey.partition_eq_ok_iff.1 source).1,
      (RoutingKey.partition_eq_ok_iff.1 target).1, source.trans target.symm⟩
  · rintro ⟨some, -, same⟩
    have source : key.partition fleet.seed before = .ok _ :=
      RoutingKey.partition_eq_ok_iff.2 ⟨some, rfl⟩
    exact ⟨_, _, source, same.symm.trans source, rfl⟩

theorem computeMove_eq_some_iff :
    fleet.computeMove key before after = .ok (some move) ↔
      key.partition fleet.seed before = .ok move.fromPartition ∧
        key.partition fleet.seed after = .ok move.toPartition ∧
        key.partition fleet.seed before ≠ key.partition fleet.seed after ∧
        fleet.Resolved move := by
  simp only [computeMove_eq_ok_iff, eq_comm (a := some move), move?_eq_some_iff]
  constructor
  · rintro ⟨_, _, source, target, rfl, rfl, moved, resolved⟩
    exact ⟨source, target, by simpa [source, target] using moved, resolved⟩
  · rintro ⟨source, target, moved, resolved⟩
    exact ⟨_, _, source, target, rfl, rfl, by simpa [source, target] using moved, resolved⟩

theorem computeMove_swap (fleet : Fleet) (key : RoutingKey) (before after : Nat) :
    fleet.computeMove key after before =
      (fleet.computeMove key before after).map (Option.map EngineMove.reversed) := by
  obtain ⟨zero, failed⟩ | ⟨source, target, placed, replaced, answered⟩ :=
    fleet.computeMove_cases key before after
  · rw [failed, computeMove_eq_error_iff.2 ⟨zero.symm, rfl⟩]
    rfl
  · rw [answered, computeMove_eq_ok_iff.2 ⟨target, source, replaced, placed, rfl⟩, move?_swap]
    rfl

end Fleet

/-- A key that has moved while partitions were added is on one of the new ones. -/
theorem RoutingKey.partition_grown {key : RoutingKey} {seed : UInt32} {n m source target : Nat}
    (grown : n < m) (placed : key.partition seed n = .ok source)
    (replaced : key.partition seed m = .ok target) (moved : source ≠ target) :
    source < n ∧ n ≤ target := by
  obtain ⟨some, rfl⟩ := partition_eq_ok_iff.1 placed
  obtain ⟨-, rfl⟩ := partition_eq_ok_iff.1 replaced
  have steady := ConsistentHash.steady_bucket (key.hash seed)
  have one : 1 ≤ n := Nat.pos_of_ne_zero some
  exact ⟨steady.within n one, steady.shrunk n m one (Nat.le_of_lt grown) moved⟩

/-- The law of moves, for every fleet and for any numbers of partitions, however many engines are
    known. -/
theorem computed_moves (fleet : Fleet) (key : RoutingKey) (before after : Nat) :
    let answer := fleet.computeMove key before after
    let placed := key.partition fleet.seed before
    let replaced := key.partition fleet.seed after
    (∀ e, answer = .error e ↔ (before = 0 ∨ after = 0) ∧ e = .noPartitions) ∧
    (answer = .ok none ↔ before ≠ 0 ∧ after ≠ 0 ∧ placed = replaced) ∧
    (∀ move, answer = .ok (some move) ↔
      placed = .ok move.fromPartition ∧ replaced = .ok move.toPartition ∧
        placed ≠ replaced ∧ fleet.Resolved move) ∧
    (∀ move, answer = .ok (some move) →
      (before < after → move.fromPartition < before ∧ before ≤ move.toPartition) ∧
      (after < before → move.toPartition < after ∧ after ≤ move.fromPartition) ∧
      before ≠ after) ∧
    fleet.computeMove key after before = answer.map (Option.map EngineMove.reversed) := by
  intro answer placed replaced
  refine ⟨fun e => Fleet.computeMove_eq_error_iff, Fleet.computeMove_eq_none_iff,
    fun move => Fleet.computeMove_eq_some_iff, fun move moved => ?_, fleet.computeMove_swap _ _ _⟩
  obtain ⟨source, target, different, -⟩ := Fleet.computeMove_eq_some_iff.1 moved
  have apart : move.fromPartition ≠ move.toPartition := by
    simpa [source, target] using different
  refine ⟨fun more => RoutingKey.partition_grown more source target apart,
    fun fewer => RoutingKey.partition_grown fewer target source apart.symm, ?_⟩
  rintro rfl
  exact different rfl

example : ((⟨1, 65535, "localhost"⟩ : PortStrategy).fleet 0).computeMove ⟨"t-1", "r-1", "cpu"⟩ 2 3 =
    .ok (some ⟨0, 2, some ⟨"localhost", 65535, 0⟩, none⟩) := by
  decide +kernel

end AlertEngine
