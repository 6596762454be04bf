import AlertEngine.Time.Timestamp
import AlertEngine.Uuid
import Mathlib.Algebra.Ring.Nat
import Mathlib.Data.List.TakeDrop
import Mathlib.Data.List.TakeWhile

/-! # Identifiers and timestamps as texts

Every part of a written identifier or timestamp has a width of its own or a mark behind it, so that
a reader takes back exactly what was written.
-/

namespace AlertEngine

theorem hexDigit?_digitChar (n : Fin 16) : hexDigit? (Nat.digitChar n.val) = some n.val := by
  revert n
  decide

namespace Uuid

theorem digits?_map_digitChar (digits : List (Fin 16)) :
    digits? (digits.map fun digit : Fin 16 => Nat.digitChar digit.val) = some digits := by
  induction digits with
  | nil => rfl
  | cons digit rest ih => simp [digits?, hexDigit?_digitChar, ih]

theorem unhyphenated?_groups {a b c d e : List Char} (ha : a.length = 8) (hb : b.length = 4)
    (hc : c.length = 4) (hd : d.length = 4) (he : e.length = 12) :
    unhyphenated? (a ++ '-' :: b ++ '-' :: c ++ '-' :: d ++ '-' :: e) =
      some (a ++ b ++ c ++ d ++ e) := by
  rw [unhyphenated?, if_pos]
  · simp (disch := omega) [List.drop_append, ha, hb, hc, hd, List.take_of_length_le,
      List.drop_eq_nil_of_le]
  · simp [List.getElem?_append, ha, hb, hc, hd, he]

/-- The digits of an identifier as they are written. -/
def digitChars (id : Uuid) : List Char :=
  id.digits.map fun digit : Fin 16 => Nat.digitChar digit.val

theorem length_digitChars (id : Uuid) : id.digitChars.length = 32 := by
  rw [digitChars, List.length_map, id.length_eq]

theorem length_chars (id : Uuid) : id.chars.length = 36 := by
  simp [chars, id.length_eq]

theorem unhyphenated?_chars (id : Uuid) : unhyphenated? id.chars = some id.digitChars := by
  have length := id.length_digitChars
  have joined : id.digitChars.take (8 + 4 + 4 + 4 + 12) = id.digitChars :=
    List.take_of_length_le (by omega)
  rw [List.take_add, List.take_add, List.take_add, List.take_add] at joined
  have read := unhyphenated?_groups (a := id.digitChars.take 8)
    (b := (id.digitChars.drop 8).take 4) (c := (id.digitChars.drop 12).take 4)
    (d := (id.digitChars.drop 16).take 4) (e := (id.digitChars.drop 20).take 12)
    (by simp [length]) (by simp [length]) (by simp [length]) (by simp [length])
    (by simp [length])
  rw [joined] at read
  exact read

/-- So no identifier is mistaken for one behind a prefix. -/
theorem digitChar_ne_u (n : Fin 16) : Nat.digitChar n.val ≠ 'u' := by
  revert n
  decide

theorem not_urn_chars (id : Uuid) : "urn:uuid:".toList.isPrefixOf id.chars = false := by
  obtain ⟨digits, length_eq⟩ := id
  cases digits with
  | nil => cases length_eq
  | cons digit rest => simp [chars, List.isPrefixOf, (digitChar_ne_u digit).symm]

theorem ofText?_text (id : Uuid) : ofText? id.text = some id := by
  have length := id.length_chars
  rw [ofText?, text, String.toList_ofList, ofChars?, if_neg (by omega), if_neg (by omega),
    id.not_urn_chars, if_neg (by decide), unhyphenated?_chars]
  simp [digitChars, digits?_map_digitChar, id.length_eq]

end Uuid

theorem Decimal.digitsValue_eq (digits : List Char) :
    Decimal.digitsValue digits = Nat.ofDigitChars 10 digits 0 := by
  rw [Decimal.digitsValue, Nat.ofDigitChars]
  congr 1
  funext value c
  rw [Decimal.digitValue, Nat.mul_comm]

theorem Text.not_isBlank_of_isDigit {c : Char} (digit : c.isDigit) : isBlank c = false := by
  have range : 48 ≤ c.toNat ∧ c.toNat ≤ 57 := by
    simpa [Char.isDigit, UInt32.le_iff_toNat_le] using digit
  simp only [isBlank, blanks, CodeRanges.contains, CodeRange.contains, List.any_cons,
    List.any_nil, Bool.or_false, Bool.or_eq_false_iff, Bool.and_eq_false_iff,
    decide_eq_false_iff_not]
  omega

theorem Text.dropBlanks_cons {c : Char} (visible : isBlank c = false) (rest : List Char) :
    dropBlanks (c :: rest) = c :: rest := by
  rw [dropBlanks, List.dropWhile_cons_of_neg (by simp [visible])]

theorem Date.day_le (d : Date) : d.day ≤ 31 := by
  obtain ⟨year, month, day, month_range, low, high⟩ := d
  refine high.trans ?_
  unfold daysIn
  split
  · split <;> omega
  all_goals omega

namespace Timestamp

open Decimal Text

section Padded

variable (width n : Nat)

theorem isDigit_of_mem_padded {c : Char} (here : c ∈ padded width n) : c.isDigit := by
  rw [padded, List.mem_append, List.mem_replicate] at here
  obtain ⟨-, rfl⟩ | digit := here
  · rfl
  · exact Nat.isDigit_of_mem_toDigits (by decide) (by decide) digit

theorem digitsValue_padded : digitsValue (padded width n) = n := by
  rw [digitsValue_eq, padded, Nat.ofDigitChars_append, Nat.ofDigitChars_replicate_zero,
    Nat.mul_zero, Nat.ofDigitChars_ten_toDigits]

theorem padded_eq_cons : ∃ c digits, padded width n = c :: digits ∧ c.isDigit := by
  cases written : padded width n with
  | nil => simp [padded, Nat.toDigits_ne_nil] at written
  | cons c digits =>
      exact ⟨c, digits, rfl, isDigit_of_mem_padded width n (written ▸ List.mem_cons_self)⟩

theorem padded_append_ne_cons {c : Char} (mark : c.isDigit = false) (rest behind : List Char) :
    padded width n ++ rest ≠ c :: behind := by
  obtain ⟨d, digits, written, digit⟩ := padded_eq_cons width n
  rw [written]
  intro same
  cases same
  rw [digit] at mark
  cases mark

theorem dropBlanks_padded (rest : List Char) :
    dropBlanks (padded width n ++ rest) = padded width n ++ rest := by
  obtain ⟨c, digits, written, digit⟩ := padded_eq_cons width n
  rw [written]
  exact dropBlanks_cons (not_isBlank_of_isDigit digit) (digits ++ rest)

theorem span_padded {close : Char} (ends : close.isDigit = false) (rest : List Char) :
    (padded width n ++ close :: rest).span Char.isDigit = (padded width n, close :: rest) := by
  have all : ∀ c ∈ padded width n, c.isDigit := fun _ => isDigit_of_mem_padded width n
  rw [List.span_eq_takeWhile_dropWhile, List.takeWhile_append_of_pos all,
    List.dropWhile_append_of_pos all]
  simp [ends]

variable {width n}

theorem length_padded (positive : 0 < width) (fits : n < 10 ^ width) :
    (padded width n).length = width := by
  have digits := (Nat.length_toDigits_le_iff (by decide) positive).2 fits
  rw [padded, List.length_append, List.length_replicate]
  omega

theorem number?_padded (positive : 0 < width) (fits : n < 10 ^ width) (rest : List Char) :
    number? width (padded width n ++ rest) = some (n, rest) := by
  have taken : (padded width n ++ rest).take width = padded width n :=
    List.take_left' (length_padded positive fits)
  have digits : (padded width n).takeWhile Char.isDigit = padded width n :=
    List.takeWhile_eq_self_iff.2 fun _ => isDigit_of_mem_padded width n
  have nonempty : (padded width n).isEmpty = false := by
    obtain ⟨c, digits, written, -⟩ := padded_eq_cons width n
    rw [written]
    rfl
  simp only [number?, dropBlanks_padded, taken, digits, nonempty, digitsValue_padded,
    List.drop_left, Bool.false_eq_true, if_false]

/-- The digits of a fraction are those in front of the places of a nanosecond. -/
theorem fraction?_padded {nanosecond : Nat} (positive : 0 < width) (short : width ≤ 9)
    (fits : n < 10 ^ width) (scaled : n * 10 ^ (9 - width) = nanosecond) :
    fraction? ('.' :: padded width n ++ ['Z']) = some (nanosecond, ['Z']) := by
  obtain ⟨c, digits, written, -⟩ := padded_eq_cons width n
  have length := length_padded positive fits
  have value := digitsValue_padded width n
  have counted : (padded width n).take 9 = padded width n := List.take_of_length_le (by omega)
  have spanned := span_padded width n (rfl : 'Z'.isDigit = false) []
  rw [List.cons_append, fraction?, spanned]
  rw [written] at counted length value ⊢
  simp only [counted, length, value, Nat.pow_eq, scaled]

end Padded

theorem mark?_cons {mark : Char} (visible : isBlank mark = false) (rest : List Char) :
    mark? mark (mark :: rest) = some rest := by
  simp only [mark?, dropBlanks_cons visible, if_true]

theorem year?_signed (width n : Nat) (rest : List Char) (value : Nat → Int) :
    year?.signed (padded width n ++ '-' :: rest) value = some (value n, '-' :: rest) := by
  obtain ⟨c, digits, written, -⟩ := padded_eq_cons width n
  have spanned := span_padded width n (rfl : '-'.isDigit = false) rest
  have read := digitsValue_padded width n
  rw [year?.signed, spanned]
  rw [written] at read ⊢
  simp only [read]

theorem year?_yearText (year : Int) (rest : List Char) :
    year? (yearText year ++ '-' :: rest) = some (year, '-' :: rest) := by
  rw [yearText]
  split
  · next plain =>
    have read := number?_padded (by decide) (by omega : year.toNat < 10 ^ 4) ('-' :: rest)
    rw [year?, dropBlanks_padded]
    split
    · next same => exact absurd same (padded_append_ne_cons 4 _ rfl _ _)
    · next same => exact absurd same (padded_append_ne_cons 4 _ rfl _ _)
    · rw [read, Option.map_some]
      simp only [Int.toNat_of_nonneg plain.1]
  · next signed =>
    split
    · next negative =>
      rw [List.cons_append, year?, dropBlanks_cons rfl]
      simp only [year?_signed]
      rw [Int.ofNat_natAbs_of_nonpos (by omega), Int.neg_neg]
    · next positive =>
      rw [List.cons_append, year?, dropBlanks_cons rfl]
      simp only [year?_signed]
      rw [Int.natAbs_of_nonneg (by omega)]

theorem fraction?_fractionText {nanosecond : Nat} (below : nanosecond < 1000000000) :
    fraction? (fractionText nanosecond ++ ['Z']) = some (nanosecond, ['Z']) := by
  rw [fractionText]
  split
  · next none =>
    subst none
    rfl
  · split
    · next milliseconds =>
      exact fraction?_padded (by decide) (by decide) (by omega) (by omega)
    · split
      · next microseconds =>
        exact fraction?_padded (by decide) (by decide) (by omega) (by omega)
      · exact fraction?_padded (by decide) (by decide) (by omega) (by omega)

theorem ofLocal?_zero (t : Timestamp) :
    ofLocal? t.date t.hour t.minute t.second t.nanosecond 0 = some t := by
  obtain ⟨date, hour, minute, second, nanosecond, hour_lt, minute_lt, second_le, nanosecond_lt⟩ := t
  have minutes : (hour : Int) * 60 + minute - 0 = ((hour * 60 + minute : Nat) : Int) := by omega
  have day : (if ((hour * 60 + minute : Nat) : Int) < 0 then date.previous
      else if ((hour * 60 + minute : Nat) : Int) < 1440 then date else date.next) = date := by
    rw [if_neg (by omega), if_pos (by omega)]
  have clock : (((hour * 60 + minute : Nat) : Int) % 1440).toNat = hour * 60 + minute := by omega
  rw [ofLocal?, dif_pos ⟨⟨hour_lt, minute_lt⟩, second_le, nanosecond_lt⟩]
  simp only [minutes, day, clock, Option.some_inj, Timestamp.mk.injEq, true_and, and_true]
  omega

theorem chars_eq (t : Timestamp) :
    t.chars = yearText t.date.year ++ '-' :: (padded 2 t.date.month ++ '-' ::
      (padded 2 t.date.day ++ 'T' :: (padded 2 t.hour ++ ':' :: (padded 2 t.minute ++ ':' ::
        (padded 2 t.second ++ (fractionText t.nanosecond ++ ['Z'])))))) := by
  simp only [chars, List.append_assoc, List.cons_append]

theorem ofText?_text (t : Timestamp) :
    ofText? t.text = if inRange t.date.year then some t else none := by
  have dash := mark?_cons (rfl : isBlank '-' = false)
  have colon := mark?_cons (rfl : isBlank ':' = false)
  have two : ∀ n : Nat, n < 100 → ∀ rest, number? 2 (padded 2 n ++ rest) = some (n, rest) :=
    fun n below => number?_padded (by decide) below
  have month := two t.date.month (by have := t.date.month_range; omega)
  have day := two t.date.day (by have := t.date.day_le; omega)
  have hour := two t.hour (by have := t.hour_lt; omega)
  have minute := two t.minute (by have := t.minute_lt; omega)
  have second := two t.second (by have := t.second_le; omega)
  have fraction := fraction?_fractionText t.nanosecond_lt
  have zone : offset? (dropBlanks ['Z']) = some (0, []) := rfl
  rw [ofText?, text, String.toList_ofList, chars_eq, ofChars?]
  dsimp only [Option.bind_eq_bind]
  rw [year?_yearText, Option.bind_some, dash, Option.bind_some, month, Option.bind_some, dash,
    Option.bind_some, day, Option.bind_some]
  change Option.bind (some _) _ = _
  rw [Option.bind_some, hour, Option.bind_some, colon, Option.bind_some, minute, Option.bind_some,
    colon, Option.bind_some, second, Option.bind_some, fraction, Option.bind_some, zone,
    Option.bind_some, if_neg (by decide), Date.of?_eq_some, Option.bind_some, ofLocal?_zero,
    Option.bind_some]
  simp only [and_self]

end Timestamp

end AlertEngine
