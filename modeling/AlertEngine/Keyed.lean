/-! # Keyed collections

Values under keys, every key once and in ascending order. Two collections with the same
answer to every look-up are equal, so nothing depends on the order in which a collection
was filled.
-/

universe u v w

namespace AlertEngine

/-- A finite collection of values under ascending keys. -/
structure Keyed (κ : Type u) (α : Type v) [Ord κ] where
  entries : List (κ × α)
  ascending : entries.Pairwise fun a b => compare a.1 b.1 = .lt

namespace Keyed

section Entries

variable {κ : Type u} {α : Type v} [Ord κ]

/-- The value of the first entry under `key`. -/
def find? (key : κ) : List (κ × α) → Option α
  | [] => none
  | (k, a) :: rest => if compare key k = .eq then some a else find? key rest

/-- Put a value in its place, in front of the first greater key. -/
def place (key : κ) (value : α) : List (κ × α) → List (κ × α)
  | [] => [(key, value)]
  | (k, a) :: rest =>
    match compare key k with
    | .lt => (key, value) :: (k, a) :: rest
    | .eq => (key, value) :: rest
    | .gt => (k, a) :: place key value rest

/-- Drop every entry under `key`. -/
def drop (key : κ) (entries : List (κ × α)) : List (κ × α) :=
  entries.filter fun entry => compare key entry.1 != .eq

theorem mem_place {key : κ} {value : α} {entries : List (κ × α)} {entry : κ × α} :
    entry ∈ place key value entries → entry = (key, value) ∨ entry ∈ entries := by
  induction entries with
  | nil => simp [place]
  | cons head rest ih =>
    obtain ⟨k, a⟩ := head
    simp only [place]
    split
    · simp
    · intro h
      rcases List.mem_cons.1 h with h | h <;> simp [h]
    · intro h
      rcases List.mem_cons.1 h with h | h
      · simp [h]
      · rcases ih h with h | h <;> simp [h]

variable [Std.TransOrd κ] [Std.LawfulEqOrd κ]

theorem pairwise_place {key : κ} {value : α} {entries : List (κ × α)}
    (h : entries.Pairwise fun a b => compare a.1 b.1 = .lt) :
    (place key value entries).Pairwise fun a b => compare a.1 b.1 = .lt := by
  induction entries with
  | nil => simp [place]
  | cons head rest ih =>
    obtain ⟨k, a⟩ := head
    rw [List.pairwise_cons] at h
    simp only [place]
    split
    · next hlt =>
      refine List.pairwise_cons.2 ⟨?_, List.pairwise_cons.2 h⟩
      intro entry hentry
      rcases List.mem_cons.1 hentry with rfl | hentry
      · exact hlt
      · exact Std.TransCmp.lt_trans hlt (h.1 entry hentry)
    · next heq =>
      have hk : key = k := Std.LawfulEqOrd.eq_of_compare heq
      subst hk
      exact List.pairwise_cons.2 ⟨h.1, h.2⟩
    · next hgt =>
      refine List.pairwise_cons.2 ⟨?_, ih h.2⟩
      intro entry hentry
      rcases mem_place hentry with rfl | hentry
      · exact Std.OrientedCmp.lt_of_gt hgt
      · exact h.1 entry hentry

omit [Std.TransOrd κ] in
theorem find?_place [DecidableEq κ] (key other : κ) (value : α) (entries : List (κ × α)) :
    find? other (place key value entries)
      = if other = key then some value else find? other entries := by
  induction entries with
  | nil => simp [place, find?]
  | cons head rest ih =>
    obtain ⟨k, a⟩ := head
    simp only [place]
    split
    · simp [find?]
    · next heq =>
      have hk : key = k := Std.LawfulEqOrd.eq_of_compare heq
      subst hk
      by_cases ho : other = key <;> simp [find?, ho]
    · next hgt =>
      have hk : key ≠ k := by
        rintro rfl
        simp at hgt
      by_cases ho : other = k
      · subst ho
        have hok : ¬other = key := fun h => hk h.symm
        simp [find?, hok]
      · simp [find?, ho, ih]

omit [Std.TransOrd κ] in
theorem find?_drop [DecidableEq κ] (key other : κ) (entries : List (κ × α)) :
    find? other (drop key entries) = if other = key then none else find? other entries := by
  induction entries with
  | nil => simp [drop, find?]
  | cons head rest ih =>
    obtain ⟨k, a⟩ := head
    simp only [drop, List.filter_cons] at ih ⊢
    by_cases hk : key = k
    · subst hk
      by_cases ho : other = key
      · simp_all
      · simp_all [find?]
    · by_cases ho : other = k
      · subst ho
        have hok : ¬other = key := fun h => hk h.symm
        simp [find?, hk, hok]
      · simp [find?, hk, ho, ih]

omit [Std.TransOrd κ] in
theorem find?_eq_some_iff {key : κ} {value : α} {entries : List (κ × α)}
    (h : entries.Pairwise fun a b => compare a.1 b.1 = .lt) :
    find? key entries = some value ↔ (key, value) ∈ entries := by
  induction entries with
  | nil => simp [find?]
  | cons head rest ih =>
    obtain ⟨k, a⟩ := head
    rw [List.pairwise_cons] at h
    simp only [find?, List.mem_cons, Prod.mk.injEq]
    by_cases hk : key = k
    · subst hk
      have hnot : (key, value) ∉ rest := by
        intro hmem
        simpa using h.1 _ hmem
      simp [hnot, eq_comm]
    · simp [hk, ih h.2]

omit [Std.TransOrd κ] [Std.LawfulEqOrd κ] in
theorem find?_eq_none_of_lt {key : κ} {entries : List (κ × α)}
    (h : ∀ entry ∈ entries, compare key entry.1 = .lt) : find? key entries = none := by
  induction entries with
  | nil => rfl
  | cons head rest ih =>
    obtain ⟨k, a⟩ := head
    have hk : compare key k = .lt := h (k, a) List.mem_cons_self
    simp only [find?, hk, reduceCtorEq, if_false]
    exact ih fun entry hentry => h entry (List.mem_cons_of_mem _ hentry)

omit [Std.TransOrd κ] [Std.LawfulEqOrd κ] in
theorem find?_map {β : Type w} (f : α → β) (key : κ) (entries : List (κ × α)) :
    find? key (entries.map fun (k, a) => (k, f a)) = (find? key entries).map f := by
  induction entries with
  | nil => rfl
  | cons head rest ih =>
    obtain ⟨k, a⟩ := head
    simp only [List.map_cons, find?, ih]
    split <;> rfl

omit [Std.LawfulEqOrd κ] in
/-- Placing a value takes the one that was there out of the count, and adds the new one. -/
theorem countP_place (p : α → Bool) (key : κ) (value : α) {entries : List (κ × α)}
    (h : entries.Pairwise fun a b => compare a.1 b.1 = .lt) :
    ((place key value entries).map (·.2)).countP p + (find? key entries).toList.countP p
      = (entries.map (·.2)).countP p + [value].countP p := by
  induction entries with
  | nil => simp [place, find?]
  | cons head rest ih =>
    obtain ⟨k, a⟩ := head
    rw [List.pairwise_cons] at h
    simp only [place]
    split
    · next hlt =>
      have hnone : find? key ((k, a) :: rest) = none := by
        refine find?_eq_none_of_lt fun entry hentry => ?_
        rcases List.mem_cons.1 hentry with rfl | hentry
        · exact hlt
        · exact Std.TransCmp.lt_trans hlt (h.1 entry hentry)
      simp only [hnone, List.map_cons, List.countP_cons, Option.toList_none, List.countP_nil]
      omega
    · next heq =>
      simp only [find?, heq, if_true, List.map_cons, List.countP_cons, Option.toList_some,
        List.countP_nil]
      omega
    · next hgt =>
      have hrest := ih h.2
      simp only [find?, hgt, reduceCtorEq, if_false, List.map_cons, List.countP_cons,
        List.countP_nil] at hrest ⊢
      omega

theorem eq_of_mem_iff {xs ys : List (κ × α)}
    (hx : xs.Pairwise fun a b => compare a.1 b.1 = .lt)
    (hy : ys.Pairwise fun a b => compare a.1 b.1 = .lt)
    (h : ∀ entry, entry ∈ xs ↔ entry ∈ ys) : xs = ys := by
  induction xs generalizing ys with
  | nil =>
    cases ys with
    | nil => rfl
    | cons y ys => simpa using h y
  | cons x xs ih =>
    cases ys with
    | nil => simpa using h x
    | cons y ys =>
      rw [List.pairwise_cons] at hx hy
      have hxy : x = y := by
        rcases List.mem_cons.1 ((h x).1 (by simp)) with rfl | hxy
        · rfl
        · rcases List.mem_cons.1 ((h y).2 (by simp)) with rfl | hyx
          · rfl
          · have h1 := hx.1 y hyx
            have h2 := hy.1 x hxy
            simpa using Std.TransCmp.lt_trans h1 h2
      subst hxy
      congr 1
      refine ih hx.2 hy.2 fun entry => ?_
      have hxs : x ∉ xs := fun hmem => by simpa using hx.1 x hmem
      have hys : x ∉ ys := fun hmem => by simpa using hy.1 x hmem
      have := h entry
      simp only [List.mem_cons] at this
      by_cases he : entry = x
      · subst he
        simp [hxs, hys]
      · simpa [he] using this

end Entries

variable {κ : Type u} {α : Type v} {β : Type w} [Ord κ]

def empty : Keyed κ α := ⟨[], .nil⟩

instance : EmptyCollection (Keyed κ α) := ⟨empty⟩

instance : Inhabited (Keyed κ α) := ⟨empty⟩

instance [DecidableEq κ] [DecidableEq α] : DecidableEq (Keyed κ α) := fun x y =>
  decidable_of_iff (x.entries = y.entries) <| by
    cases x
    cases y
    simp

def get? (collection : Keyed κ α) (key : κ) : Option α :=
  find? key collection.entries

def contains (collection : Keyed κ α) (key : κ) : Bool :=
  (collection.get? key).isSome

def size (collection : Keyed κ α) : Nat :=
  collection.entries.length

def keys (collection : Keyed κ α) : List κ :=
  collection.entries.map (·.1)

def values (collection : Keyed κ α) : List α :=
  collection.entries.map (·.2)

/-- Change every value and keep the keys. -/
def mapValues (f : α → β) (collection : Keyed κ α) : Keyed κ β :=
  ⟨collection.entries.map fun (k, a) => (k, f a), List.pairwise_map.2 collection.ascending⟩

def erase (collection : Keyed κ α) (key : κ) : Keyed κ α :=
  ⟨drop key collection.entries, collection.ascending.filter _⟩

variable [Std.TransOrd κ] [Std.LawfulEqOrd κ]

/-- Put `value` under `key`, in place of what was there. -/
def insert (collection : Keyed κ α) (key : κ) (value : α) : Keyed κ α :=
  ⟨place key value collection.entries, pairwise_place collection.ascending⟩

/-- Of several entries under one key the last one stays. -/
def ofList (entries : List (κ × α)) : Keyed κ α :=
  entries.foldl (fun collection entry => collection.insert entry.1 entry.2) empty

omit [Std.TransOrd κ] [Std.LawfulEqOrd κ] in
@[simp] theorem get?_empty (key : κ) : (empty : Keyed κ α).get? key = none := rfl

theorem get?_insert [DecidableEq κ] (collection : Keyed κ α) (key other : κ) (value : α) :
    (collection.insert key value).get? other
      = if other = key then some value else collection.get? other :=
  find?_place key other value collection.entries

omit [Std.TransOrd κ] in
theorem get?_erase [DecidableEq κ] (collection : Keyed κ α) (key other : κ) :
    (collection.erase key).get? other = if other = key then none else collection.get? other :=
  find?_drop key other collection.entries

omit [Std.TransOrd κ] in
theorem get?_eq_some_iff {collection : Keyed κ α} {key : κ} {value : α} :
    collection.get? key = some value ↔ (key, value) ∈ collection.entries :=
  find?_eq_some_iff collection.ascending

omit [Std.TransOrd κ] [Std.LawfulEqOrd κ] in
@[simp] theorem get?_mapValues (f : α → β) (collection : Keyed κ α) (key : κ) :
    (collection.mapValues f).get? key = (collection.get? key).map f :=
  find?_map f key collection.entries

theorem countP_values_insert (p : α → Bool) (collection : Keyed κ α) (key : κ) (value : α) :
    (collection.insert key value).values.countP p + (collection.get? key).toList.countP p
      = collection.values.countP p + [value].countP p :=
  countP_place p key value collection.ascending

omit [Std.TransOrd κ] in
/-- To count values is to count the keys under which they stand. -/
theorem countP_values (p : α → Bool) (collection : Keyed κ α) :
    collection.values.countP p
      = collection.keys.countP fun key => (collection.get? key).any p := by
  simp only [values, keys, List.countP_map]
  refine List.countP_congr fun entry hentry => ?_
  have hget : collection.get? entry.1 = some entry.2 := get?_eq_some_iff.2 hentry
  simp [Function.comp, hget]

omit [Std.TransOrd κ] [Std.LawfulEqOrd κ] in
theorem countP_values_mapValues (p : β → Bool) (f : α → β) (collection : Keyed κ α) :
    (collection.mapValues f).values.countP p = collection.values.countP (p ∘ f) := by
  simp [values, mapValues, List.countP_map, Function.comp_def]

omit [Std.TransOrd κ] in
theorem mem_keys_iff {collection : Keyed κ α} {key : κ} :
    key ∈ collection.keys ↔ (collection.get? key).isSome := by
  simp only [keys, List.mem_map, Option.isSome_iff_exists, get?_eq_some_iff]
  constructor
  · rintro ⟨⟨k, a⟩, hentry, rfl⟩
    exact ⟨a, hentry⟩
  · rintro ⟨a, hentry⟩
    exact ⟨(key, a), hentry, rfl⟩

omit [Std.TransOrd κ] in
theorem nodup_keys (collection : Keyed κ α) : collection.keys.Nodup := by
  refine List.pairwise_map.2 (collection.ascending.imp fun {a b} hlt heq => ?_)
  rw [heq] at hlt
  simp at hlt

/-- A collection is determined by its look-ups. -/
@[ext] theorem ext_get? {x y : Keyed κ α} (h : ∀ key, x.get? key = y.get? key) : x = y := by
  obtain ⟨xs, hx⟩ := x
  obtain ⟨ys, hy⟩ := y
  congr 1
  refine eq_of_mem_iff hx hy fun entry => ?_
  obtain ⟨k, a⟩ := entry
  rw [← find?_eq_some_iff hx, ← find?_eq_some_iff hy]
  exact Iff.of_eq (congrArg (· = some a) (h k))

/-- To put a value where it is already changes nothing. -/
theorem insert_of_get? [DecidableEq κ] {collection : Keyed κ α} {key : κ} {value : α}
    (here : collection.get? key = some value) : collection.insert key value = collection := by
  ext1 other
  rw [get?_insert]
  split
  · next same => rw [same, here]
  · rfl

end Keyed

end AlertEngine
