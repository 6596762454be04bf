import AlertEngine.Decimal.Reading
import AlertEngine.Time.Date

/-! # Moments of TOML

A date, a time of day, or both with or without an offset from universal time. The written form
has a `T` between date and time, at most nine digits of a fraction without zeros at its end, and
`Z` or a sign and a clock as the offset.
-/

namespace AlertEngine.Toml

/-- Exactly `count` digits off the front. -/
def digitGroup? (count : Nat) (text : List Char) : Option (List Char × List Char) :=
  let digits := text.take count
  if digits.length = count ∧ digits.all Char.isDigit then some (digits, text.drop count)
  else none

/-- Two digits of a number up to `greatest`. -/
def pairUpTo? (greatest : Nat) (text : List Char) : Option (List Char × List Char) :=
  (digitGroup? 2 text).filter fun (digits, _) => Decimal.digitsValue digits ≤ greatest

def mark? (mark : Char) : List Char → Option (List Char)
  | [] => none
  | c :: rest => if c = mark then some rest else none

/-- A day that exists. -/
def day? (text : List Char) : Option (List Char × List Char) := do
  let (year, text) ← digitGroup? 4 text
  let text ← mark? '-' text
  let (month, text) ← digitGroup? 2 text
  let text ← mark? '-' text
  let (day, text) ← digitGroup? 2 text
  let _ ← Date.of? (Decimal.digitsValue year) (Decimal.digitsValue month)
    (Decimal.digitsValue day)
  pure (year ++ '-' :: month ++ '-' :: day, text)

/-- A point and its digits, as far as they are kept. -/
def secondFraction (text : List Char) : List Char × List Char :=
  match text with
  | '.' :: rest =>
    let (digits, rest) := rest.span Char.isDigit
    let kept := ((digits.take 9).reverse.dropWhile (· = '0')).reverse
    if digits.isEmpty then ([], text)
    else if kept.isEmpty then ([], rest)
    else ('.' :: kept, rest)
  | text => ([], text)

def clock? (text : List Char) : Option (List Char × List Char) := do
  let (hour, text) ← pairUpTo? 23 text
  let text ← mark? ':' text
  let (minute, text) ← pairUpTo? 59 text
  let text ← mark? ':' text
  let (second, text) ← pairUpTo? 60 text
  let (fraction, text) := secondFraction text
  pure (hour ++ ':' :: minute ++ ':' :: second ++ fraction, text)

/-- An offset of zero has a plus sign. -/
def offset? (text : List Char) : Option (List Char × List Char) :=
  match text with
  | 'Z' :: rest | 'z' :: rest => some (['Z'], rest)
  | sign :: rest =>
    if sign = '+' ∨ sign = '-' then do
      let (hour, rest) ← pairUpTo? 23 rest
      let rest ← mark? ':' rest
      let (minute, rest) ← pairUpTo? 59 rest
      let sign := if (hour ++ minute).all (· = '0') then '+' else sign
      pure (sign :: hour ++ ':' :: minute, rest)
    else none
  | [] => none

/-- The written form of a moment off the front. A day stands alone unless a whole clock follows
    it. -/
def moment? (text : List Char) : Option (String × List Char) :=
  match day? text with
  | none => (clock? text).map fun (clock, rest) => (String.ofList clock, rest)
  | some (day, rest) =>
    match dayClock? rest with
    | none => some (String.ofList day, rest)
    | some (clock, rest) =>
      let (offset, rest) := (offset? rest).getD ([], rest)
      some (String.ofList (day ++ 'T' :: clock ++ offset), rest)
where
  dayClock? : List Char → Option (List Char × List Char)
    | 'T' :: rest | 't' :: rest | ' ' :: rest => clock? rest
    | _ => none

end AlertEngine.Toml
