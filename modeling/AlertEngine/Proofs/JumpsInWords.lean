import AlertEngine.Proofs.Doubles
import AlertEngine.Proofs.SteadyBuckets

/-! # Jumps in words

Jumps are made in words of 32 bits and in doubles. The divisor is counted from one and wraps behind
the greatest word, the quotient is rounded and then cut to a word. Nothing of this goes wrong: from
where a walk has come to, a divisor that has wrapped leads below all buckets, and every other one
leads forward, so that there are no more jumps than buckets.
-/

namespace AlertEngine.ConsistentHash

/-- The number of buckets as a word. More than fit are as many as fit. -/
def limit (buckets : Nat) : Int32 :=
  Int32.ofNat (min buckets maxBuckets)

/-- What a jump divides by, in parts of `randomBound`. -/
def divisor (state : UInt64) : Int32 :=
  (state >>> 33).toUInt32.toInt32 + 1

/-- A double as a word: it is cut towards zero, and no farther from zero than words go. -/
def wordOf (q : ℚ) : Int32 :=
  Int32.ofIntClamp (q.num.tdiv q.den)

/-- A jump leads from a bucket to a word. Both divisions are rounded, the one to a fraction and the
    other by it. -/
def Leads (state : UInt64) (candidate next : Int32) : Prop :=
  ∃ fraction quotient : ℚ,
    Nearest ((divisor state).toInt / randomBound) fraction ∧
    Nearest ((candidate + 1).toInt / fraction) quotient ∧
    next = wordOf quotient

/-- A jump to such a word is made. -/
def Inside (limit next : Int32) : Prop :=
  0 ≤ next ∧ next < limit

/-- What a key comes to after so many jumps: the state of its random numbers, and its bucket. -/
inductive Reaches (limit : Int32) (key : UInt64) : Nat → UInt64 → Int32 → Prop where
  | start : Reaches limit key 0 key 0
  | jump {n : Nat} {state : UInt64} {candidate next : Int32}
      (before : Reaches limit key n state candidate) (leads : Leads (advance state) candidate next)
      (inside : Inside limit next) : Reaches limit key (n + 1) (advance state) next

/-- No jump is made any more. -/
def Ends (limit : Int32) (state : UInt64) (candidate : Int32) : Prop :=
  ∀ next, Leads (advance state) candidate next → ¬Inside limit next

/-- What a walk can count on wherever it has come to. -/
structure Sound (limit : Int32) (state : UInt64) (candidate : Int32) : Prop where
  /-- There is a word behind the bucket. -/
  room : (candidate + 1).toInt = candidate.toInt + 1
  divides : divisor (advance state) ≠ 0
  /-- However quotients are rounded, there is one way to go on. -/
  leads : ∃! next, Leads (advance state) candidate next
  forward : ∀ next, Leads (advance state) candidate next → Inside limit next → candidate < next
  wrapped : divisor (advance state) < 0 → Ends limit state candidate

variable {buckets n c : Nat} {state key : UInt64} {candidate next : Int32}

theorem toInt_limit (buckets : Nat) : (limit buckets).toInt = min buckets maxBuckets := by
  have reach : maxBuckets < 2 ^ 31 := by decide
  exact Int32.toInt_ofNat_of_lt (by omega)

theorem toInt_divisor (state : UInt64) :
    (divisor state).toInt =
      if draw state = randomBound then -(randomBound : ℤ) else draw state := by
  have low : (state >>> 33).toNat < 2 ^ 31 := Nat.lt_of_succ_le (draw_le state)
  have word : (state >>> 33).toUInt32.toInt32 = Int32.ofNat (state >>> 33).toNat := by
    rw [← UInt32.toInt32_ofNat', ← UInt64.toUInt32_ofNat', UInt64.ofNat_toNat]
  rw [divisor, word, Int32.toInt_add, Int32.toInt_ofNat_of_lt low, draw]
  split
  · next final =>
    have last : (state >>> 33).toNat = 2147483647 := Nat.succ.inj final
    rw [last]
    decide
  · next ongoing =>
    have below : (state >>> 33).toNat + 1 < 2 ^ 31 := by
      unfold randomBound at ongoing
      omega
    rw [show (1 : Int32).toInt = 1 from rfl, Int.bmod_eq_of_le] <;> omega

theorem toInt_wordOf {q : ℚ} (positive : 0 ≤ q) : (wordOf q).toInt = min ⌊q⌋ maxBuckets := by
  have cut : q.num.tdiv q.den = ⌊q⌋ := by
    rw [Int.tdiv_eq_ediv_of_nonneg (Rat.num_nonneg.2 positive), Rat.floor_def']
  have whole : 0 ≤ ⌊q⌋ := Int.floor_nonneg.2 positive
  have least : Int32.minValue.toInt ≤ ⌊q⌋ := by
    have negative : Int32.minValue.toInt ≤ 0 := by decide
    omega
  have greatest : Int32.maxValue.toInt = maxBuckets := by decide
  rw [wordOf, cut]
  by_cases fits : ⌊q⌋ ≤ maxBuckets
  · rw [Int32.toInt_ofIntClamp least (greatest ▸ fits), min_eq_left fits]
  · rw [Int32.ofIntClamp, dif_pos least, dif_neg (greatest ▸ fits), greatest,
      min_eq_right (Int.le_of_not_le fits)]

theorem toInt_wordOf_intCast {k : ℤ} (low : -randomBound ≤ k) (high : k ≤ maxBuckets) :
    (wordOf k).toInt = k := by
  have least : Int32.minValue.toInt = -randomBound := by decide
  have greatest : Int32.maxValue.toInt = maxBuckets := by decide
  rw [wordOf, Rat.num_intCast, Rat.den_intCast, Nat.cast_one, Int.tdiv_one,
    Int32.toInt_ofIntClamp (least ▸ low) (greatest ▸ high)]

theorem isDouble_fraction (word : Int32) : IsDouble (word.toInt / randomBound) := by
  have least := word.le_toInt
  have greatest := word.toInt_lt
  have double : IsDouble (word.toInt * 2 ^ (-31 : ℤ)) :=
    isDouble_of_le (abs_le.2 ⟨by omega, by omega⟩) (by decide) (by decide)
  rwa [show (2 : ℚ) ^ (-31 : ℤ) = (randomBound : ℚ)⁻¹ by norm_num [randomBound],
    ← div_eq_mul_inv] at double

theorem leads_iff :
    Leads state candidate next ↔
      ∃ quotient : ℚ, Nearest ((candidate + 1).toInt / ((divisor state).toInt / randomBound))
        quotient ∧ next = wordOf quotient := by
  constructor
  · rintro ⟨fraction, quotient, exact, rounded, rfl⟩
    rw [exact.eq_of_isDouble (isDouble_fraction _)] at rounded
    exact ⟨quotient, rounded, rfl⟩
  · rintro ⟨quotient, rounded, rfl⟩
    obtain ⟨fraction, exact⟩ := exists_nearest ((divisor state).toInt / randomBound)
    refine ⟨fraction, quotient, exact, ?_, rfl⟩
    rwa [exact.eq_of_isDouble (isDouble_fraction _)]

theorem leads_iff_of_forall {word : ℤ}
    (cut : ∀ quotient : ℚ,
      Nearest ((candidate + 1).toInt / ((divisor state).toInt / randomBound)) quotient →
        (wordOf quotient).toInt = word) :
    Leads state candidate next ↔ next.toInt = word := by
  rw [leads_iff]
  constructor
  · rintro ⟨quotient, rounded, rfl⟩
    exact cut quotient rounded
  · intro lands
    obtain ⟨quotient, rounded⟩ :=
      exists_nearest ((candidate + 1).toInt / ((divisor state).toInt / randomBound))
    exact ⟨quotient, rounded, Int32.toInt.inj (lands.trans (cut quotient rounded).symm)⟩

theorem toInt_add_one (here : candidate.toInt = c) (room : c < maxBuckets) :
    (candidate + 1).toInt = c + 1 := by
  rw [Int32.toInt_add, here, show (1 : Int32).toInt = 1 from rfl]
  unfold maxBuckets at room
  rw [Int.bmod_eq_of_le] <;> omega

/-- A divisor that has wrapped stands for minus one. -/
theorem leads_of_final (final : draw state = randomBound) (here : candidate.toInt = c)
    (room : c < maxBuckets) : Leads state candidate next ↔ next.toInt = -(c + 1) := by
  apply leads_iff_of_forall
  intro quotient rounded
  have exact : ((c + 1 : ℤ) / ((-randomBound : ℤ) / randomBound) : ℚ) = (-(c + 1) : ℤ) := by
    have unit : ((-randomBound : ℤ) / randomBound : ℚ) = -1 := by norm_num [randomBound]
    rw [unit, div_neg, div_one, Int.cast_neg]
  rw [toInt_add_one here room, toInt_divisor, if_pos final, exact] at rounded
  unfold maxBuckets at room
  have double : IsDouble (-(c + 1) : ℤ) := isDouble_intCast (abs_le.2 ⟨by omega, by omega⟩)
  rw [rounded.eq_of_isDouble double]
  exact toInt_wordOf_intCast (by unfold randomBound; omega) (by omega)

theorem leads_of_ongoing (ongoing : draw state ≠ randomBound) (here : candidate.toInt = c)
    (room : c < maxBuckets) :
    Leads state candidate next ↔ next.toInt = min (leap c (draw state)) maxBuckets := by
  apply leads_iff_of_forall
  intro quotient rounded
  have exact : ((c + 1 : ℤ) / ((draw state : ℤ) / randomBound) : ℚ) =
      ((c + 1) * randomBound : ℕ) / draw state := by
    push_cast
    rw [div_div_eq_mul_div]
  rw [toInt_add_one here room, toInt_divisor, if_neg ongoing, exact] at rounded
  have positive : 0 ≤ quotient :=
    rounded.le_of_isDouble (isDouble_intCast (m := 0) (by decide)) (by positivity)
  have small : c + 1 ≤ randomBound := by
    have reach : maxBuckets < randomBound := by decide
    omega
  rw [toInt_wordOf positive,
    floor_of_nearest (Nat.succ_pos c) small (draw_pos state) (draw_le state) rounded]
  rfl

theorem existsUnique_leads (here : candidate.toInt = c) (room : c < maxBuckets) :
    ∃! next, Leads state candidate next := by
  have reach : maxBuckets < 2 ^ 31 := by decide
  obtain ⟨word, low, high, lands⟩ : ∃ word : ℤ, -2 ^ 31 ≤ word ∧ word < 2 ^ 31 ∧
      ∀ next, Leads state candidate next ↔ next.toInt = word := by
    by_cases final : draw state = randomBound
    · exact ⟨-(c + 1), by omega, by omega, fun _ => leads_of_final final here room⟩
    · exact ⟨_, by omega, by omega, fun _ => leads_of_ongoing final here room⟩
  have same : (Int32.ofInt word).toInt = word := Int32.toInt_ofInt_of_le low high
  exact ⟨Int32.ofInt word, (lands _).2 same,
    fun next leads => Int32.toInt.inj (((lands next).1 leads).trans same.symm)⟩

theorem inside_iff :
    Inside (limit buckets) next ↔ 0 ≤ next.toInt ∧ next.toInt < (min buckets maxBuckets : ℕ) := by
  rw [Inside, Int32.le_iff_toInt_le, Int32.lt_iff_toInt_lt, toInt_limit, Int32.toInt_zero]

theorem toInt_ofNat_of_inside {next : Nat} (inside : next < min buckets maxBuckets) :
    (Int32.ofNat next).toInt = next := by
  have reach : maxBuckets < 2 ^ 31 := by decide
  exact Int32.toInt_ofNat_of_lt (by omega)

theorem leads_inside_iff (here : candidate.toInt = c) (room : c < maxBuckets) :
    Leads state candidate next ∧ Inside (limit buckets) next ↔
      draw state ≠ randomBound ∧ leap c (draw state) < min buckets maxBuckets ∧
        next.toInt = leap c (draw state) := by
  rw [inside_iff]
  by_cases final : draw state = randomBound
  · rw [leads_of_final final here room]
    simp only [final, ne_eq, not_true_eq_false, false_and, iff_false]
    omega
  · rw [leads_of_ongoing final here room]
    simp only [final, ne_eq, not_false_eq_true, true_and]
    omega

theorem ends_iff (here : candidate.toInt = c) (room : c < maxBuckets) :
    Ends (limit buckets) state candidate ↔
      draw (advance state) = randomBound ∨
        ¬leap c (draw (advance state)) < min buckets maxBuckets := by
  have exits : Ends (limit buckets) state candidate ↔
      ∀ next, ¬(Leads (advance state) candidate next ∧ Inside (limit buckets) next) := by
    simp only [Ends, not_and]
  simp only [exits, leads_inside_iff here room]
  constructor
  · intro ends
    by_contra goes
    rw [not_or, not_not] at goes
    exact ends _ ⟨goes.1, goes.2, toInt_ofNat_of_inside goes.2⟩
  · rintro (final | outside) next ⟨ongoing, inside, -⟩
    · exact ongoing final
    · exact outside inside

/-- A walk in words has come to where a walk in whole numbers has. -/
structure Tracks (key : UInt64) (buckets n : Nat) (state : UInt64) (candidate : Int32) (c : Nat) :
    Prop where
  here : candidate.toInt = c
  /-- Every jump has led forward. -/
  jumps : n ≤ c
  within : c = 0 ∨ c < min buckets maxBuckets
  placed : walk buckets state c = bucket key buckets

theorem Tracks.room (tracks : Tracks key buckets n state candidate c) : c < maxBuckets := by
  have some : 0 < maxBuckets := by decide
  have within := tracks.within
  omega

theorem Reaches.tracks (reaches : Reaches (limit buckets) key n state candidate) :
    ∃ c, Tracks key buckets n state candidate c := by
  induction reaches with
  | start => exact ⟨0, Int32.toInt_zero, Nat.le_refl 0, .inl rfl, rfl⟩
  | @jump n state candidate next _ leads inside ih =>
      obtain ⟨c, tracks⟩ := ih
      obtain ⟨ongoing, inside, lands⟩ :=
        (leads_inside_iff tracks.here tracks.room).1 ⟨leads, inside⟩
      have forward : c < leap c (draw (advance state)) := lt_leap_of_inside inside
      refine ⟨leap c (draw (advance state)), lands, ?_, .inr inside, ?_⟩
      · exact Nat.lt_of_le_of_lt tracks.jumps forward
      · rw [← tracks.placed, walk_of_inside ongoing inside]

theorem Tracks.sound (tracks : Tracks key buckets n state candidate c) :
    Sound (limit buckets) state candidate where
  room := by rw [toInt_add_one tracks.here tracks.room, tracks.here]
  divides zero := by
    have word := toInt_divisor (advance state)
    have some := draw_pos (advance state)
    rw [zero, Int32.toInt_zero] at word
    split at word
    · exact absurd word (by decide)
    · omega
  leads := existsUnique_leads tracks.here tracks.room
  forward next leads inside := by
    obtain ⟨-, inside, lands⟩ := (leads_inside_iff tracks.here tracks.room).1 ⟨leads, inside⟩
    rw [Int32.lt_iff_toInt_lt, tracks.here, lands]
    exact_mod_cast lt_leap_of_inside inside
  wrapped negative := by
    rw [Int32.lt_iff_toInt_lt, toInt_divisor, Int32.toInt_zero] at negative
    refine (ends_iff tracks.here tracks.room).2 (.inl ?_)
    by_contra ongoing
    rw [if_neg ongoing] at negative
    omega

theorem Tracks.bucket_of_ends (tracks : Tracks key buckets n state candidate c)
    (ends : Ends (limit buckets) state candidate) : candidate.toInt = bucket key buckets := by
  rw [tracks.here, ← tracks.placed]
  rcases (ends_iff tracks.here tracks.room).1 ends with final | outside
  · rw [walk_of_final final]
  · rw [walk_of_outside outside]

theorem exists_end (buckets : Nat) (state : UInt64) (c : Nat) :
    ∀ n candidate, Reaches (limit buckets) key n state candidate → candidate.toInt = c →
      c < maxBuckets → ∃ n state candidate, Reaches (limit buckets) key n state candidate ∧
        Ends (limit buckets) state candidate := by
  induction state, c using walk.induct buckets with
  | case1 state c _ final =>
      intro n candidate reaches here room
      exact ⟨n, state, candidate, reaches, (ends_iff here room).2 (.inl final)⟩
  | case2 state c _ ongoing next inside ih =>
      intro n candidate reaches here room
      have word : (Int32.ofNat next).toInt = next := toInt_ofNat_of_inside inside
      obtain ⟨leads, within⟩ := (leads_inside_iff here room).2 ⟨ongoing, inside, word⟩
      exact ih _ _ (reaches.jump leads within) word (by omega)
  | case3 state c _ _ _ outside =>
      intro n candidate reaches here room
      exact ⟨n, state, candidate, reaches, (ends_iff here room).2 (.inr outside)⟩

/-- The law of jumps in words. Walks make at most as many jumps as there are buckets, can go on in
    one way only wherever they have come to, and end: at the bucket of the key, which is one of
    those there are. -/
theorem bounded_walks (key : UInt64) (buckets : Nat) :
    (∀ n state candidate, Reaches (limit buckets) key n state candidate →
      n ≤ min buckets maxBuckets ∧ Sound (limit buckets) state candidate ∧
      (Ends (limit buckets) state candidate → candidate.toInt = bucket key buckets)) ∧
    (∃ n state candidate, Reaches (limit buckets) key n state candidate ∧
      Ends (limit buckets) state candidate) ∧
    bucket key 0 = 0 ∧ (buckets ≠ 0 → bucket key buckets < min buckets maxBuckets) := by
  refine ⟨fun n state candidate reaches => ?_, ?_, ?_, ?_⟩
  · obtain ⟨c, tracks⟩ := reaches.tracks
    have few : n ≤ min buckets maxBuckets := by
      have jumps := tracks.jumps
      have within := tracks.within
      omega
    exact ⟨few, tracks.sound, tracks.bucket_of_ends⟩
  · exact exists_end buckets key 0 0 0 .start Int32.toInt_zero (by decide)
  · exact walk_of_outside (by omega)
  · exact fun some => bucket_lt key (Nat.pos_of_ne_zero some)

/-- A key whose first divisor wraps. -/
example : divisor (advance 0x944b422206a3a298) = Int32.minValue ∧
    bucket 0x944b422206a3a298 100 = 0 := by
  decide +kernel

end AlertEngine.ConsistentHash
