import AlertEngine.Routing.ConsistentHash
import Mathlib.Data.Finite.Prod
import Mathlib.Data.Int.Interval
import Mathlib.Data.Nat.Factorization.Basic
import Mathlib.Data.Nat.Cast.Order.Field
import Mathlib.Data.Rat.Floor
import Mathlib.Data.Set.Finite.Lemmas
import Mathlib.Tactic.FieldSimp
import Mathlib.Tactic.Linarith
import Mathlib.Tactic.LinearCombination
import Mathlib.Tactic.NormNum
import Mathlib.Tactic.Positivity
import Mathlib.Tactic.Ring

/-! # Doubles

A double is a whole number of 53 bits times a power of two. All that is known of a rounded quotient
is that no other double is nearer to the exact one. For the quotients of jumps this is enough to
know it: none of them is halfway between two doubles.
-/

namespace AlertEngine

/-- A finite double of 64 bits, as the number that it stands for. -/
def IsDouble (x : ℚ) : Prop :=
  ∃ m e : ℤ, |m| < 2 ^ 53 ∧ -1074 ≤ e ∧ e ≤ 971 ∧ x = m * 2 ^ e

/-- What `x` may be rounded to, whichever way is taken where two doubles are as near. -/
structure Nearest (x d : ℚ) : Prop where
  isDouble : IsDouble d
  nearest : ∀ other, IsDouble other → |x - d| ≤ |x - other|

theorem finite_doubles : {x | IsDouble x}.Finite := by
  have bounded : (Set.Icc (-2 ^ 53 : ℤ) (2 ^ 53) ×ˢ Set.Icc (-1074 : ℤ) 971).Finite :=
    (Set.finite_Icc _ _).prod (Set.finite_Icc _ _)
  refine (bounded.image fun p : ℤ × ℤ => (p.1 * 2 ^ p.2 : ℚ)).subset ?_
  rintro x ⟨m, e, small, low, high, rfl⟩
  exact ⟨(m, e), ⟨abs_le.1 small.le, low, high⟩, rfl⟩

theorem isDouble_of_le {m e : ℤ} (small : |m| ≤ 2 ^ 53) (low : -1074 ≤ e) (high : e ≤ 970) :
    IsDouble (m * 2 ^ e) := by
  rcases small.lt_or_eq with less | full
  · exact ⟨m, e, less, low, by omega, rfl⟩
  · obtain ⟨k, rfl, less⟩ : ∃ k : ℤ, m = 2 * k ∧ |k| < 2 ^ 53 := by
      rcases (abs_eq (by norm_num)).1 full with rfl | rfl
      · exact ⟨2 ^ 52, by norm_num, by norm_num⟩
      · exact ⟨-2 ^ 52, by norm_num, by norm_num⟩
    refine ⟨k, e + 1, less, by omega, by omega, ?_⟩
    rw [zpow_add_one₀ two_ne_zero]
    push_cast
    ring

theorem isDouble_intCast {m : ℤ} (small : |m| ≤ 2 ^ 53) : IsDouble m := by
  simpa using isDouble_of_le small (show -1074 ≤ (0 : ℤ) by decide) (by decide)

/-- On a grid of powers of two a double is a point, or it is less than 53 bits away from zero. -/
theorem IsDouble.whole_or_lt {x : ℚ} (double : IsDouble x) (j : ℕ) :
    (∃ k : ℤ, x * 2 ^ j = k) ∨ x * 2 ^ j < 2 ^ 52 := by
  obtain ⟨m, e, small, -, -, rfl⟩ := double
  have shifted : (m : ℚ) * 2 ^ e * 2 ^ j = m * 2 ^ (e + j) := by
    rw [zpow_add₀ two_ne_zero, zpow_natCast, mul_assoc]
  rw [shifted]
  by_cases up : 0 ≤ e + j
  · obtain ⟨n, shift⟩ := Int.eq_ofNat_of_zero_le up
    exact .inl ⟨m * 2 ^ n, by rw [shift]; push_cast; rw [zpow_natCast]⟩
  · right
    have half : (2 : ℚ) ^ (e + j) ≤ 2 ^ (-1 : ℤ) :=
      zpow_le_zpow_right₀ one_le_two (by omega)
    have size : (m : ℚ) < 2 ^ 53 := by exact_mod_cast (abs_lt.1 small).2
    calc (m : ℚ) * 2 ^ (e + j) < 2 ^ 53 * 2 ^ (e + j) :=
        mul_lt_mul_of_pos_right size (zpow_pos two_pos _)
      _ ≤ 2 ^ 53 * 2 ^ (-1 : ℤ) := by gcongr
      _ = 2 ^ 52 := by norm_num

theorem IsDouble.exists_whole {x : ℚ} (double : IsDouble x) : ∃ k : ℤ, x * 2 ^ 1074 = k := by
  obtain ⟨m, e, -, low, -, rfl⟩ := double
  obtain ⟨n, shift⟩ := Int.eq_ofNat_of_zero_le (show 0 ≤ e + 1074 by omega)
  refine ⟨m * 2 ^ n, ?_⟩
  push_cast
  rw [← zpow_natCast (2 : ℚ) n, show (n : ℤ) = e + (1074 : ℕ) from shift.symm,
    zpow_add₀ two_ne_zero, zpow_natCast, mul_assoc]

theorem exists_nearest (x : ℚ) : ∃ d, Nearest x d := by
  have some : {x | IsDouble x}.Nonempty := ⟨_, isDouble_intCast (m := 0) (by norm_num)⟩
  obtain ⟨d, isDouble, nearest⟩ := Set.exists_min_image _ (fun d => |x - d|) finite_doubles some
  exact ⟨d, isDouble, nearest⟩

namespace Nearest

variable {x d m : ℚ}

theorem eq_of_isDouble (rounded : Nearest x d) (exact : IsDouble x) : d = x := by
  have none : |x - d| ≤ |x - x| := rounded.nearest x exact
  rw [sub_self, abs_zero] at none
  exact (sub_eq_zero.1 (abs_nonpos_iff.1 none)).symm

theorem le_of_isDouble (rounded : Nearest x d) (double : IsDouble m) (below : m ≤ x) : m ≤ d := by
  by_contra crossed
  have nearer := rounded.nearest m double
  rw [abs_of_nonneg (by linarith), abs_of_nonneg (by linarith)] at nearer
  linarith

/-- There are two ways to round only halfway between two doubles, which is a fraction with a power
    of two below. -/
theorem unique {d' : ℚ} (rounded : Nearest x d) (other : Nearest x d')
    (exact : ∀ (j : ℕ) (k : ℤ), x * 2 ^ j = k → IsDouble x) : d = d' := by
  have same : |x - d| = |x - d'| :=
    le_antisymm (rounded.nearest d' other.isDouble) (other.nearest d rounded.isDouble)
  rcases abs_eq_abs.1 same with same | opposite
  · exact sub_right_injective same
  · obtain ⟨k, whole⟩ := rounded.isDouble.exists_whole
    obtain ⟨k', whole'⟩ := other.isDouble.exists_whole
    have middle : x * 2 = d + d' := by linarith
    have halfway : x * 2 ^ 1075 = (k + k' : ℤ) := by
      rw [pow_succ', ← mul_assoc, middle, add_mul, whole, whole', Int.cast_add]
    have double : IsDouble x := exact 1075 _ halfway
    rw [rounded.eq_of_isDouble double, other.eq_of_isDouble double]

end Nearest

namespace ConsistentHash

theorem roundDiv_within {n d : ℕ} (pos : 0 < d) : 2 * |(n : ℤ) - roundDiv n d * d| ≤ d := by
  have split : (n : ℤ) = d * (n / d : ℕ) + (n % d : ℕ) := by
    exact_mod_cast (Nat.div_add_mod n d).symm
  have rest := Nat.mod_lt n pos
  rw [roundDiv]
  split
  · next less =>
    have exact : (n : ℤ) - (n / d : ℕ) * d = (n % d : ℕ) := by linear_combination split
    rw [exact, abs_of_nonneg (by omega)]
    omega
  · next more =>
    have exact : (n : ℤ) - (n / d + 1 : ℕ) * d = (n % d : ℕ) - d := by
      rw [Nat.cast_add_one]
      linear_combination split
    rw [exact, abs_of_nonpos (by omega)]
    omega

theorem roundDiv_nearest {n d : ℕ} (pos : 0 < d) (k : ℤ) :
    |(n / d : ℚ) - roundDiv n d| ≤ |(n / d : ℚ) - k| := by
  have half : |(n / d : ℚ) - roundDiv n d| ≤ 1 / 2 := by
    have within : (2 * |(n : ℚ) - roundDiv n d * d|) ≤ d := by exact_mod_cast roundDiv_within pos
    have scaled : (n / d : ℚ) - roundDiv n d = (n - roundDiv n d * d) / d := by field_simp
    rw [scaled, abs_div, Nat.abs_cast, div_le_iff₀ (by exact_mod_cast pos)]
    linarith
  by_cases same : k = roundDiv n d
  · rw [same, Int.cast_natCast]
  · have apart : (1 : ℚ) ≤ |(roundDiv n d : ℚ) - k| := by
      exact_mod_cast Int.one_le_abs (sub_ne_zero.2 (Ne.symm same))
    have way : |(roundDiv n d : ℚ) - k| ≤ |(n / d : ℚ) - roundDiv n d| + |(n / d : ℚ) - k| := by
      rw [abs_sub_comm (n / d : ℚ) (roundDiv n d)]
      exact abs_sub_le _ _ _
    linarith

/-- The grid of `2 ^ j` parts on which a quotient of at most 53 bits has all of them. -/
theorem exists_grid {n d : ℕ} (pos : 0 < d) (above : d ≤ n) (within : n / d < coarseFrom) :
    ∃ j ≤ 52, 2 ^ 52 * d ≤ n * 2 ^ j ∧ n * 2 ^ j < 2 ^ 53 * d ∧
      roundedQuotient n d = roundDiv (n * 2 ^ j) d / 2 ^ j := by
  rw [coarseFrom_eq, Nat.pow_eq] at within
  have some : n / d ≠ 0 := (Nat.div_pos above pos).ne'
  have bits : (n / d).log2 ≤ 52 := Nat.lt_succ_iff.1 ((Nat.log2_lt some).2 within)
  obtain ⟨j, grid⟩ := Nat.exists_eq_add_of_le bits
  refine ⟨j, by omega, ?_, ?_, ?_⟩
  · have bit : 2 ^ (n / d).log2 * d ≤ n := (Nat.le_div_iff_mul_le pos).1 (Nat.log2_self_le some)
    rw [grid, pow_add]
    linarith [Nat.mul_le_mul_right (2 ^ j) bit]
  · have bit : n < 2 ^ ((n / d).log2 + 1) * d := (Nat.div_lt_iff_lt_mul pos).1 Nat.lt_log2_self
    rw [show 53 = (n / d).log2 + 1 + j by omega, pow_add _ _ j]
    linarith [Nat.mul_lt_mul_of_pos_right bit (Nat.two_pow_pos j)]
  · rw [roundedQuotient, show 53 - ((n / d).log2 + 1) = j by omega,
      show (n / d).log2 + 1 - 53 = 0 by omega]
    simp

theorem nearest_grid {n d j : ℕ} (pos : 0 < d) (fine : j ≤ 52) (low : 2 ^ 52 * d ≤ n * 2 ^ j)
    (high : n * 2 ^ j < 2 ^ 53 * d) : Nearest (n / d) (roundDiv (n * 2 ^ j) d / 2 ^ j) := by
  have size : (0 : ℚ) < 2 ^ j := pow_pos two_pos j
  have least : (2 ^ 52 : ℤ) ≤ ((n * 2 ^ j : ℕ) / d : ℚ) := by
    rw [le_div_iff₀ (by exact_mod_cast pos)]
    exact_mod_cast low
  have most : ((n * 2 ^ j : ℕ) / d : ℚ) < (2 ^ 53 : ℤ) := by
    rw [div_lt_iff₀ (by exact_mod_cast pos)]
    exact_mod_cast high
  have nearest := roundDiv_nearest (n := n * 2 ^ j) pos
  have scaled : (n / d : ℚ) * 2 ^ j = (n * 2 ^ j : ℕ) / d := by
    push_cast
    ring
  generalize roundDiv (n * 2 ^ j) d = whole at *
  generalize ((n * 2 ^ j : ℕ) / d : ℚ) = x at *
  constructor
  · have fits : (whole : ℚ) ≤ 2 ^ 53 := by
      have bound := nearest (2 ^ 53)
      rw [abs_of_neg (sub_neg.2 most)] at bound
      have under := neg_abs_le (x - whole)
      push_cast at bound
      linarith
    have double : IsDouble ((whole : ℤ) * 2 ^ (-j : ℤ)) :=
      isDouble_of_le (by rw [Nat.abs_cast]; exact_mod_cast fits) (by omega) (by omega)
    rwa [zpow_neg, zpow_natCast, ← div_eq_mul_inv] at double
  · intro other double
    refine le_of_mul_le_mul_right ?_ size
    have scale (y : ℚ) : |n / d - y| * 2 ^ j = |x - y * 2 ^ j| := by
      rw [← scaled, ← sub_mul, abs_mul, abs_of_pos size]
    rw [scale, scale, div_mul_cancel₀ _ size.ne']
    rcases double.whole_or_lt j with ⟨k, point⟩ | below
    · rw [point]
      exact nearest k
    · calc |x - whole| ≤ |x - (2 ^ 52 : ℤ)| := nearest _
        _ = x - 2 ^ 52 := by rw [abs_of_nonneg (sub_nonneg.2 least)]; norm_num
        _ ≤ x - other * 2 ^ j := by linarith
        _ ≤ |x - other * 2 ^ j| := le_abs_self _

/-- A quotient by a number of at most 31 bits is never halfway between two doubles: if it is a
    fraction with a power of two below, then it is a double. -/
theorem isDouble_quotient {a r : ℕ} (small : a ≤ randomBound) (pos : 0 < r)
    (bound : r ≤ randomBound) (j : ℕ) (k : ℤ)
    (dyadic : ((a * randomBound : ℕ) / r : ℚ) * 2 ^ j = k) :
    IsDouble ((a * randomBound : ℕ) / r) := by
  have size : randomBound = 2 ^ 31 := rfl
  obtain ⟨i, o, odd, rfl⟩ := Nat.exists_eq_two_pow_mul_odd pos.ne'
  have odd_part : (o : ℚ) ≠ 0 := by exact_mod_cast odd.pos.ne'
  have whole : (a : ℤ) * 2 ^ (31 + j) = o * (2 ^ i * k) := by
    rw [size, div_mul_eq_mul_div, div_eq_iff (by positivity)] at dyadic
    have cleared : (a : ℚ) * 2 ^ (31 + j) = o * (2 ^ i * k) := by
      push_cast at dyadic
      linear_combination dyadic
    exact_mod_cast cleared
  obtain ⟨b, rfl⟩ : o ∣ a := by
    have divides : o ∣ a * 2 ^ (31 + j) := Int.natCast_dvd_natCast.1 ⟨_, by exact_mod_cast whole⟩
    exact (odd.coprime_two_right.pow_right _).dvd_of_dvd_mul_right divides
  obtain ⟨rest, power⟩ : ∃ rest, 31 = i + rest := by
    apply Nat.exists_eq_add_of_le
    have under : 2 ^ i ≤ 2 ^ 31 := (Nat.le_mul_of_pos_right _ odd.pos).trans bound
    exact (Nat.pow_le_pow_iff_right (by norm_num)).1 under
  have value : ((o * b * randomBound : ℕ) / (2 ^ i * o : ℕ) : ℚ) = (b : ℤ) * 2 ^ (rest : ℤ) := by
    rw [size, power]
    push_cast
    rw [zpow_natCast, pow_add]
    field_simp
  have fits : b ≤ 2 ^ 53 := by
    have less : b ≤ o * b := Nat.le_mul_of_pos_left _ odd.pos
    exact (less.trans small).trans (by decide)
  rw [value]
  exact isDouble_of_le (by rw [Nat.abs_cast]; exact_mod_cast fits) (by omega) (by omega)

theorem floor_of_nearest {a r : ℕ} {q : ℚ} (some : 0 < a) (small : a ≤ randomBound) (pos : 0 < r)
    (bound : r ≤ randomBound) (rounded : Nearest ((a * randomBound : ℕ) / r) q) :
    min ⌊q⌋ maxBuckets = min (roundedQuotient (a * randomBound) r) maxBuckets := by
  by_cases within : a * randomBound / r < coarseFrom
  · have above : r ≤ a * randomBound := bound.trans (Nat.le_mul_of_pos_left _ some)
    obtain ⟨j, fine, low, high, cells⟩ := exists_grid pos above within
    have exact := isDouble_quotient small pos bound
    rw [rounded.unique (nearest_grid pos fine low high) exact, cells]
    exact_mod_cast congrArg (min · (maxBuckets : ℤ)) (Rat.floor_natCast_div_natCast _ (2 ^ j))
  · have far : coarseFrom ≤ a * randomBound / r := Nat.le_of_not_lt within
    have beyond : (coarseFrom : ℤ) ≤ ⌊q⌋ := by
      have double : IsDouble (coarseFrom : ℤ) := isDouble_intCast (by decide)
      refine Int.le_floor.2 (rounded.le_of_isDouble double ?_)
      exact (Nat.cast_le.2 far).trans Nat.cast_div_le
    have reach : maxBuckets ≤ coarseFrom := by decide
    have away := le_roundedQuotient_of_le far
    rw [min_eq_right (by omega), min_eq_right (by omega)]

end ConsistentHash

end AlertEngine
