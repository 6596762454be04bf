import AlertEngine.Decimal.Reading
import AlertEngine.Text.Word
import AlertEngine.Time.Date

/-! # Timestamps

A moment in universal time to the nanosecond. Second 60 is a leap second. The written form is a
date, `T`, a time with as many groups of three fraction digits as are needed, and `Z`. Readers
also take a space or a small `t` between date and time, an offset from universal time, blanks
between the parts and fractions of any length, of which nine digits count.
-/

namespace AlertEngine

structure Timestamp where
  date : Date
  hour : Nat
  minute : Nat
  second : Nat
  nanosecond : Nat
  hour_lt : hour < 24
  minute_lt : minute < 60
  second_le : second ≤ 60
  nanosecond_lt : nanosecond < 1000000000
  deriving DecidableEq

namespace Timestamp

/-- The moment that clocks count from. -/
instance : Inhabited Timestamp :=
  ⟨⟨1970, 1, 1, by decide, by decide⟩, 0, 0, 0, 0, by decide, by decide, by decide, by decide⟩

/-- The second of the day; a leap second shares the number of the second before it. -/
def secondOfDay (t : Timestamp) : Nat :=
  t.hour * 3600 + t.minute * 60 + min t.second 59

/-- The nanoseconds since the second of the day began, a second more in a leap second. -/
def subsecond (t : Timestamp) : Nat :=
  if t.second = 60 then t.nanosecond + 1000000000 else t.nanosecond

def isLeap (t : Timestamp) : Bool :=
  t.second = 60

/-- Nanoseconds from `earlier` to `later`. A leap second counts where one of the two moments lies
    in it and the other has a later time of day. -/
def nanosecondsBetween (earlier later : Timestamp) : Int :=
  let days := later.date.dayNumber - earlier.date.dayNumber
  let seconds := (later.secondOfDay : Int) - earlier.secondOfDay
  let leap : Int :=
    if earlier.secondOfDay < later.secondOfDay then (if earlier.isLeap then 1 else 0)
    else if later.secondOfDay < earlier.secondOfDay then (if later.isLeap then -1 else 0)
    else 0
  (days * 86400 + seconds + leap) * 1000000000 + ((later.subsecond : Int) - earlier.subsecond)

/-- Whole seconds from `earlier` to `later`, the rest cut off toward zero. -/
def secondsBetween (earlier later : Timestamp) : Int :=
  (nanosecondsBetween earlier later).tdiv 1000000000

/-- At least `width` digits. -/
def padded (width n : Nat) : List Char :=
  let digits := Nat.toDigits 10 n
  List.replicate (width - digits.length) '0' ++ digits

/-- Four digits, or a sign and at least four digits outside the years 0 to 9999. -/
def yearText (year : Int) : List Char :=
  if 0 ≤ year ∧ year ≤ 9999 then padded 4 year.toNat
  else (if year < 0 then '-' else '+') :: padded 4 year.natAbs

def fractionText (nanosecond : Nat) : List Char :=
  if nanosecond = 0 then []
  else if nanosecond % 1000000 = 0 then '.' :: padded 3 (nanosecond / 1000000)
  else if nanosecond % 1000 = 0 then '.' :: padded 6 (nanosecond / 1000)
  else '.' :: padded 9 nanosecond

def chars (t : Timestamp) : List Char :=
  yearText t.date.year ++ '-' :: padded 2 t.date.month ++ '-' :: padded 2 t.date.day ++ 'T' ::
    padded 2 t.hour ++ ':' :: padded 2 t.minute ++ ':' :: padded 2 t.second ++
      fractionText t.nanosecond ++ ['Z']

def text (t : Timestamp) : String :=
  String.ofList t.chars

/-- A number of at most `width` digits, blanks in front left out. -/
def number? (width : Nat) (text : List Char) : Option (Nat × List Char) :=
  let text := Text.dropBlanks text
  let digits := (text.take width).takeWhile Char.isDigit
  if digits.isEmpty then none
  else some (Decimal.digitsValue digits, text.drop digits.length)

/-- A year of at most four digits, or of any length behind a sign. -/
def year? (text : List Char) : Option (Int × List Char) :=
  match Text.dropBlanks text with
  | '-' :: rest => signed rest fun n => -(n : Int)
  | '+' :: rest => signed rest fun n => (n : Int)
  | rest => (number? 4 rest).map fun (n, rest) => ((n : Int), rest)
where
  signed (text : List Char) (value : Nat → Int) : Option (Int × List Char) :=
    match text.span Char.isDigit with
    | ([], _) => none
    | (digits, rest) => some (value (Decimal.digitsValue digits), rest)

/-- A mark with blanks in front. -/
def mark? (mark : Char) (text : List Char) : Option (List Char) :=
  match Text.dropBlanks text with
  | c :: rest => if c = mark then some rest else none
  | [] => none

/-- A fraction in nanoseconds: nine digits count, the others are passed over. -/
def fraction? : List Char → Option (Nat × List Char)
  | '.' :: rest =>
    match rest.span Char.isDigit with
    | ([], _) => none
    | (digits, rest) =>
      let counted := digits.take 9
      some (Decimal.digitsValue counted * Nat.pow 10 (9 - counted.length), rest)
  | text => some (0, text)

/-- The offset from universal time in minutes. -/
def offset? (text : List Char) : Option (Int × List Char) :=
  match text with
  | 'Z' :: rest | 'z' :: rest => some (0, rest)
  | '+' :: rest => (clock? rest).map fun (n, rest) => ((n : Int), rest)
  | '-' :: rest | '−' :: rest => (clock? rest).map fun (n, rest) => (-(n : Int), rest)
  | u :: t :: c :: rest =>
    if u.toLower = 'u' ∧ t.toLower = 't' ∧ c.toLower = 'c' then some (0, rest) else none
  | _ => none
where
  /-- Two digits of hours and two of minutes, with colons or blanks between them or nothing. -/
  clock? : List Char → Option (Nat × List Char)
    | h :: i :: rest =>
      match rest.dropWhile fun c => c = ':' || Text.isBlank c with
      | m :: n :: rest =>
        let hours := Decimal.digitsValue [h, i]
        let minutes := Decimal.digitsValue [m, n]
        if [h, i, m, n].all Char.isDigit ∧ hours < 24 ∧ minutes < 60 then
          some (hours * 60 + minutes, rest)
        else none
      | _ => none
    | _ => none

/-- The years that moments may lie in. -/
def inRange (year : Int) : Bool :=
  -262143 ≤ year && year ≤ 262142

/-- The moment that a clock shows which is `offset` minutes ahead of universal time, by less than
    a day. -/
def ofLocal? (date : Date) (hour minute second nanosecond : Nat) (offset : Int) :
    Option Timestamp :=
  if h : (hour < 24 ∧ minute < 60) ∧ second ≤ 60 ∧ nanosecond < 1000000000 then
    let minutes : Int := hour * 60 + minute - offset
    let day :=
      if minutes < 0 then date.previous else if minutes < 1440 then date else date.next
    have clock_lt : (minutes % 1440).toNat < 1440 := by omega
    some {
      date := day
      hour := (minutes % 1440).toNat / 60
      minute := (minutes % 1440).toNat % 60
      second := second
      nanosecond := nanosecond
      hour_lt := by omega
      minute_lt := by omega
      second_le := h.2.1
      nanosecond_lt := h.2.2 }
  else none

def ofChars? (text : List Char) : Option Timestamp := do
  let (year, text) ← year? text
  let text ← mark? '-' text
  let (month, text) ← number? 2 text
  let text ← mark? '-' text
  let (day, text) ← number? 2 text
  let text ←
    match text with
    | 'T' :: rest | 't' :: rest | ' ' :: rest => some rest
    | _ => none
  let (hour, text) ← number? 2 text
  let text ← mark? ':' text
  let (minute, text) ← number? 2 text
  let text ← mark? ':' text
  let (second, text) ← number? 2 text
  let (nanosecond, text) ← fraction? text
  let (offset, text) ← offset? (Text.dropBlanks text)
  if !(Text.dropBlanks text).isEmpty then none
  else do
    let date ← Date.of? year month day
    let t ← ofLocal? date hour minute second nanosecond offset
    if inRange date.year ∧ inRange t.date.year then some t else none

def ofText? (text : String) : Option Timestamp :=
  ofChars? text.toList

end Timestamp

end AlertEngine
