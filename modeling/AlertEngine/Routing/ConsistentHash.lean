/-! # Consistent hashing

A key jumps from bucket to bucket, always to a greater one, until a jump leaves the buckets. The
jumps depend on the key alone, so with one more bucket a key stays where it is or moves to the
new one. A jump divides by a random fraction; the quotient is rounded to 53 significant bits
before it is cut to a whole number.
-/

namespace AlertEngine.ConsistentHash

/-- Divide and round to the nearest whole number, halves to the even one. -/
def roundDiv (numerator denominator : Nat) : Nat :=
  let whole := numerator / denominator
  let rest := 2 * (numerator % denominator)
  if rest < denominator ∨ (rest = denominator ∧ whole % 2 = 0) then whole else whole + 1

theorem div_le_roundDiv (n d : Nat) : n / d ≤ roundDiv n d := by
  simp only [roundDiv]
  split <;> omega

/-- The whole part of a quotient that is rounded to 53 significant bits. -/
def roundedQuotient (numerator denominator : Nat) : Nat :=
  let bits := (numerator / denominator).log2 + 1
  let finer := Nat.pow 2 (53 - bits)
  let coarser := Nat.pow 2 (bits - 53)
  roundDiv (numerator * finer) (denominator * coarser) * coarser / finer

/-- The least number of 54 bits. -/
def coarseFrom : Nat := 9007199254740992

theorem coarseFrom_eq : coarseFrom = Nat.pow 2 53 := by decide

/-- The greatest random number. -/
def randomBound : Nat := 2147483648

/-- The bucket after `candidate` for a random number; it stands for the fraction
    `random / randomBound`. -/
def leap (candidate random : Nat) : Nat :=
  roundedQuotient ((candidate + 1) * randomBound) random

theorem le_roundedQuotient {n d m : Nat} (hd : 0 < d) (hm : m * d ≤ n)
    (hn : n / d < coarseFrom) : m ≤ roundedQuotient n d := by
  rw [coarseFrom_eq, Nat.pow_eq] at hn
  have hbits : (n / d).log2 + 1 ≤ 53 := by
    by_cases h0 : n / d = 0
    · simp [h0]
    · have := (Nat.log2_lt h0).2 hn
      omega
  have hco : (n / d).log2 + 1 - 53 = 0 := by omega
  simp only [roundedQuotient, hco, Nat.pow_eq, Nat.pow_zero, Nat.mul_one]
  rw [Nat.le_div_iff_mul_le (Nat.two_pow_pos _)]
  refine Nat.le_trans ?_ (div_le_roundDiv _ _)
  rw [Nat.le_div_iff_mul_le hd]
  calc m * 2 ^ (53 - ((n / d).log2 + 1)) * d
      = m * d * 2 ^ (53 - ((n / d).log2 + 1)) := by
        rw [Nat.mul_assoc, Nat.mul_comm _ d, ← Nat.mul_assoc]
    _ ≤ n * 2 ^ (53 - ((n / d).log2 + 1)) := Nat.mul_le_mul_right _ hm

theorem le_roundedQuotient_of_le {n d : Nat} (hn : coarseFrom ≤ n / d) :
    coarseFrom ≤ roundedQuotient n d := by
  rw [coarseFrom_eq, Nat.pow_eq] at hn ⊢
  have h0 : n / d ≠ 0 := by omega
  have hbits : 53 ≤ (n / d).log2 := (Nat.le_log2 h0).2 hn
  have hfi : 53 - ((n / d).log2 + 1) = 0 := by omega
  simp only [roundedQuotient, hfi, Nat.pow_eq, Nat.pow_zero, Nat.mul_one, Nat.div_one]
  have hlow : 2 ^ (n / d).log2 ≤ n / d := Nat.log2_self_le h0
  have hsplit : (n / d).log2 = 52 + ((n / d).log2 + 1 - 53) := by omega
  have hfloor : 2 ^ 52 ≤ n / (d * 2 ^ ((n / d).log2 + 1 - 53)) := by
    rw [← Nat.div_div_eq_div_mul, Nat.le_div_iff_mul_le (Nat.two_pow_pos _), ← Nat.pow_add,
      ← hsplit]
    exact hlow
  calc 2 ^ 53 ≤ 2 ^ (n / d).log2 := Nat.pow_le_pow_right (by omega) hbits
    _ = 2 ^ 52 * 2 ^ ((n / d).log2 + 1 - 53) := by rw [← Nat.pow_add, ← hsplit]
    _ ≤ _ := Nat.mul_le_mul_right _ (Nat.le_trans hfloor (div_le_roundDiv _ _))

/-- A jump that stays within reach goes forward. -/
theorem lt_leap {candidate random : Nat} (h0 : 0 < random) (h1 : random ≤ randomBound)
    (h : leap candidate random < coarseFrom) : candidate < leap candidate random := by
  by_cases hq : (candidate + 1) * randomBound / random < coarseFrom
  · exact le_roundedQuotient h0 (Nat.mul_le_mul_left _ h1) hq
  · have := le_roundedQuotient_of_le (Nat.le_of_not_lt hq)
    unfold leap at h
    omega

private def multiplier : UInt64 := 2862933555777941757

/-- The next state of the random numbers of a key. -/
def advance (state : UInt64) : UInt64 :=
  state * multiplier + 1

/-- The random number of a state, from one to the greatest. -/
def draw (state : UInt64) : Nat :=
  (state >>> 33).toNat + 1

theorem draw_pos (state : UInt64) : 0 < draw state := Nat.succ_pos _

theorem draw_le (state : UInt64) : draw state ≤ randomBound := by
  have h : (state >>> 33).toNat < randomBound := by
    rw [UInt64.toNat_shiftRight, Nat.shiftRight_eq_div_pow]
    have := state.toNat_lt
    simp [randomBound]
    omega
  exact h

/-- The greatest number of buckets that is told apart from a greater one. -/
def maxBuckets : Nat := 2147483647

/-- The bucket of a key that has come to `candidate`. The greatest random number has no fraction
    to jump by and ends the walk, and so does a jump that leaves the buckets. -/
def walk (buckets : Nat) (state : UInt64) (candidate : Nat) : Nat :=
  let random := draw (advance state)
  if random = randomBound then candidate
  else
    let next := leap candidate random
    if _h : next < min buckets maxBuckets then walk buckets (advance state) next else candidate
termination_by min buckets maxBuckets - candidate
decreasing_by
  have hlt : leap candidate random < coarseFrom := by
    have : maxBuckets < coarseFrom := by decide
    omega
  have : candidate < leap candidate random := lt_leap (draw_pos _) (draw_le _) hlt
  show min buckets maxBuckets - leap candidate random < min buckets maxBuckets - candidate
  omega

/-- The bucket of a key. -/
def bucket (key : UInt64) (buckets : Nat) : Nat :=
  walk buckets key 0

end AlertEngine.ConsistentHash
