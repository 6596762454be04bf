import AlertEngine.Routing.Fleet

/-! # Steady buckets

The jumps of a key depend on the key alone; the number of buckets only says where they end. So two
walks of one key go the same way until the shorter one ends, and what the longer one adds is all in
buckets that the shorter one does not have.
-/

namespace AlertEngine.ConsistentHash

variable {buckets candidate : Nat} {state : UInt64}

theorem walk_of_final (final : draw (advance state) = randomBound) :
    walk buckets state candidate = candidate := by
  rw [walk]
  exact if_pos final

theorem walk_of_inside (ongoing : draw (advance state) ≠ randomBound)
    (inside : leap candidate (draw (advance state)) < min buckets maxBuckets) :
    walk buckets state candidate =
      walk buckets (advance state) (leap candidate (draw (advance state))) := by
  rw [walk]
  exact (if_neg ongoing).trans (dif_pos inside)

theorem walk_of_outside
    (outside : ¬leap candidate (draw (advance state)) < min buckets maxBuckets) :
    walk buckets state candidate = candidate := by
  rw [walk]
  by_cases final : draw (advance state) = randomBound
  · exact if_pos final
  · exact (if_neg final).trans (dif_neg outside)

theorem lt_leap_of_inside (inside : leap candidate (draw state) < min buckets maxBuckets) :
    candidate < leap candidate (draw state) := by
  have reach : maxBuckets < coarseFrom := by decide
  exact lt_leap (draw_pos state) (draw_le state) (by omega)

theorem le_walk (buckets : Nat) (state : UInt64) (candidate : Nat) :
    candidate ≤ walk buckets state candidate := by
  induction state, candidate using walk.induct buckets with
  | case1 state candidate _ final => exact Nat.le_of_eq (walk_of_final final).symm
  | case2 state candidate _ ongoing _ inside ih =>
      rw [walk_of_inside ongoing inside]
      exact Nat.le_trans (Nat.le_of_lt (lt_leap_of_inside inside)) ih
  | case3 state candidate _ _ _ outside => exact Nat.le_of_eq (walk_of_outside outside).symm

theorem walk_lt (state : UInt64) (start : candidate < min buckets maxBuckets) :
    walk buckets state candidate < min buckets maxBuckets := by
  induction state, candidate using walk.induct buckets with
  | case1 state candidate _ final => rwa [walk_of_final final]
  | case2 state candidate _ ongoing _ inside ih =>
      rw [walk_of_inside ongoing inside]
      exact ih inside
  | case3 state candidate _ _ _ outside => rwa [walk_of_outside outside]

/-- Up to the end of the shorter walk both are the same. From there on the longer one is in buckets
    that the shorter one does not have. -/
theorem walk_growing {fewer more : Nat} (grow : fewer ≤ more) (state : UInt64) (candidate : Nat) :
    walk fewer state candidate ≤ walk more state candidate ∧
      (walk more state candidate < fewer →
        walk more state candidate = walk fewer state candidate) := by
  induction state, candidate using walk.induct more with
  | case1 state candidate _ final =>
      rw [walk_of_final final, walk_of_final final]
      exact ⟨Nat.le_refl _, fun _ => rfl⟩
  | case2 state candidate _ ongoing next inside ih =>
      rw [walk_of_inside ongoing inside]
      by_cases both : next < min fewer maxBuckets
      · rw [walk_of_inside ongoing both]
        exact ih
      · rw [walk_of_outside both]
        have forward : candidate < next := lt_leap_of_inside inside
        have further : next ≤ walk more (advance state) next := le_walk more (advance state) next
        have past : fewer ≤ next := by omega
        exact ⟨Nat.le_trans (Nat.le_of_lt forward) further,
          fun back => absurd (Nat.le_trans past further) (Nat.not_le.2 back)⟩
  | case3 state candidate _ _ next outside =>
      have both : ¬next < min fewer maxBuckets := by omega
      rw [walk_of_outside outside, walk_of_outside both]
      exact ⟨Nat.le_refl _, fun _ => rfl⟩

/-- A key that is placed in any number of buckets, and moves as little as it can between them. -/
structure Steady (place : Nat → Nat) : Prop where
  within : ∀ n, 1 ≤ n → place n < n
  /-- More buckets never take a key back. -/
  forward : ∀ n m, 1 ≤ n → n ≤ m → place n ≤ place m
  /-- A key in one of the first buckets is there without the others, too. -/
  kept : ∀ n m, 1 ≤ n → n ≤ m → place m < n → place m = place n
  /-- One more bucket leaves a key where it is or takes it. -/
  grown : ∀ n, 1 ≤ n → place (n + 1) = place n ∨ place (n + 1) = n
  /-- Fewer buckets move only the keys of those that are gone. -/
  shrunk : ∀ n m, 1 ≤ n → n ≤ m → place n ≠ place m → n ≤ place m

theorem Steady.of_kept {place : Nat → Nat} (within : ∀ n, 1 ≤ n → place n < n)
    (forward : ∀ n m, 1 ≤ n → n ≤ m → place n ≤ place m)
    (kept : ∀ n m, 1 ≤ n → n ≤ m → place m < n → place m = place n) : Steady place where
  within := within
  forward := forward
  kept := kept
  grown n some := by
    have inside := within (n + 1) (Nat.le_add_left 1 n)
    by_cases back : place (n + 1) < n
    · exact .inl (kept n (n + 1) some (Nat.le_add_right n 1) back)
    · exact .inr (by omega)
  shrunk n m some fewer moved :=
    Nat.not_lt.1 fun back => moved (kept n m some fewer back).symm

theorem bucket_lt (key : UInt64) {n : Nat} (some : 1 ≤ n) : bucket key n < min n maxBuckets :=
  walk_lt key (Nat.lt_min.2 ⟨some, by decide⟩)

theorem steady_bucket (key : UInt64) : Steady (bucket key) :=
  .of_kept (fun _ some => Nat.lt_of_lt_of_le (bucket_lt key some) (Nat.min_le_left _ _))
    (fun _ _ _ fewer => (walk_growing fewer key 0).1)
    (fun _ _ _ fewer => (walk_growing fewer key 0).2)

/-- Buckets that are too many to be told apart are as many as can be. -/
theorem bucket_min (key : UInt64) (n : Nat) : bucket key (min n maxBuckets) = bucket key n := by
  rcases Nat.eq_zero_or_pos n with rfl | some
  · rfl
  · have limit : 1 ≤ min n maxBuckets := Nat.lt_min.2 ⟨some, by decide⟩
    exact ((steady_bucket key).kept _ n limit (Nat.min_le_left _ _) (bucket_lt key some)).symm

/-- Least movement. Both the buckets of a hash and the partitions of a routing key are steady, up to
    any number of them. -/
theorem least_movement (input : UInt64) (key : RoutingKey) (seed : UInt32) :
    Steady (bucket input) ∧ (∀ n, bucket input (min n maxBuckets) = bucket input n) ∧
    ∃ place, Steady place ∧ ∀ n, 1 ≤ n → key.partition seed n = .ok (place n) := by
  refine ⟨steady_bucket input, bucket_min input, bucket (key.hash seed), steady_bucket _, ?_⟩
  intro n some
  exact if_neg (Nat.ne_of_gt some)

/-- The new bucket takes a key, and no other bucket does before it. -/
example : bucket 1 54 = 45 ∧ bucket 1 55 = 45 ∧ bucket 1 56 = 55 ∧ bucket 1 100 = 55 := by
  decide +kernel

end AlertEngine.ConsistentHash
