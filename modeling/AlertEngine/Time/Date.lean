/-! # Calendar days

A day of the Gregorian calendar, continued into the past. A `Date` is always a day that exists.
-/

namespace AlertEngine

namespace Date

def isLeapYear (year : Int) : Bool :=
  year % 4 = 0 && (year % 100 ≠ 0 || year % 400 = 0)

def daysIn (year : Int) (month : Nat) : Nat :=
  match month with
  | 2 => if isLeapYear year then 29 else 28
  | 4 | 6 | 9 | 11 => 30
  | _ => 31

theorem twentyEight_le_daysIn (year : Int) (month : Nat) : 28 ≤ daysIn year month := by
  unfold daysIn
  split
  · split <;> omega
  all_goals omega

end Date

structure Date where
  year : Int
  month : Nat
  day : Nat
  month_range : 1 ≤ month ∧ month ≤ 12
  day_range : 1 ≤ day ∧ day ≤ Date.daysIn year month
  deriving DecidableEq

namespace Date

def of? (year : Int) (month day : Nat) : Option Date :=
  if h : (1 ≤ month ∧ month ≤ 12) ∧ 1 ≤ day ∧ day ≤ daysIn year month then
    some ⟨year, month, day, h.1, h.2⟩
  else none

theorem of?_eq_some (d : Date) : of? d.year d.month d.day = some d := by
  simp [of?, d.month_range, d.day_range]

/-- The day after. -/
def next (d : Date) : Date :=
  if h : d.day < daysIn d.year d.month then
    { d with day := d.day + 1, day_range := ⟨by omega, h⟩ }
  else if hm : d.month < 12 then
    { year := d.year
      month := d.month + 1
      day := 1
      month_range := ⟨by omega, hm⟩
      day_range := ⟨by omega, by have := twentyEight_le_daysIn d.year (d.month + 1); omega⟩ }
  else ⟨d.year + 1, 1, 1, by omega, by simp [daysIn]⟩

/-- The day before. -/
def previous (d : Date) : Date :=
  if h : 1 < d.day then
    { d with
      day := d.day - 1
      day_range := ⟨by omega, by have := d.day_range; omega⟩ }
  else if hm : 1 < d.month then
    { year := d.year
      month := d.month - 1
      day := daysIn d.year (d.month - 1)
      month_range := ⟨by omega, by have := d.month_range; omega⟩
      day_range := ⟨by have := twentyEight_le_daysIn d.year (d.month - 1); omega, by omega⟩ }
  else ⟨d.year - 1, 12, 31, by omega, by simp [daysIn]⟩

/-- The days of a year before a month begins. -/
def daysBefore (year : Int) (month : Nat) : Nat :=
  (List.range (month - 1)).foldl (fun days i => days + daysIn year (i + 1)) 0

/-- The days from the first day of year 1 to this one. -/
def dayNumber (d : Date) : Int :=
  let past := d.year - 1
  let rest := daysBefore d.year d.month + (d.day - 1)
  past * 365 + past / 4 - past / 100 + past / 400 + rest

end Date

end AlertEngine
