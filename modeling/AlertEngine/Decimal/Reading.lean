/-! # Reading decimals

Whole numbers may have to fit in 64 bits, with or without a sign. A decimal token is a whole part,
a fraction and a power of ten. Two rules give it a double. The nearest double is used where numbers
are typed into settings. In documents a number is scaled: the digits that fit in 64 bits become a
double, which is multiplied or divided by one power of ten.
-/

namespace AlertEngine

def fitsSigned (n : Int) : Bool :=
  -9223372036854775808 ≤ n && n < 9223372036854775808

def fitsUnsigned (n : Int) : Bool :=
  0 ≤ n && n < 18446744073709551616

namespace Decimal

/-- The digits around the point and the written power of ten of an unsigned decimal. -/
structure Token where
  whole : List Char
  fraction : List Char
  power : Int
  deriving Repr, DecidableEq

def digitValue (c : Char) : Nat :=
  c.toNat - '0'.toNat

def digitsValue (digits : List Char) : Nat :=
  digits.foldl (fun value c => value * 10 + digitValue c) 0

/-- Read an unsigned run of digits; no digit at all is no number. -/
def natural? (text : List Char) : Option Nat :=
  if text.isEmpty || !text.all Char.isDigit then none else some (digitsValue text)

/-- Take digits for as long as the number they make fits in 64 bits. -/
def takeFitting (value : Nat) : List Char → Nat × List Char
  | [] => (value, [])
  | c :: rest =>
    if value * 10 + digitValue c < UInt64.size then takeFitting (value * 10 + digitValue c) rest
    else (value, c :: rest)

/-- Divide by a power of ten in steps of at most 308 places. -/
def scaleDown (x : Float) (places : Nat) : Float :=
  if places ≤ 308 then x / Float.ofScientific 1 false places
  else if x == 0 then x
  else scaleDown (x / Float.ofScientific 1 false 308) (places - 308)
termination_by places

/-- `significand * 10 ^ power`, or nothing when it exceeds every double. -/
def scaled? (significand : Nat) (power : Int) : Option Float :=
  let x := significand.toUInt64.toFloat
  if power < 0 then some (scaleDown x (-power).toNat)
  else if x == 0 then some x
  else if 308 < power then none
  else
    let y := x * Float.ofScientific 1 false power.toNat
    if y.isInf then none else some y

/-- The double of a token by scaling. Whole digits beyond 64 bits count as zeros, further
    digits of the fraction are left out. -/
def Token.scaled? (t : Token) : Option Float :=
  let (whole, dropped) := takeFitting 0 t.whole
  let (significand, rest) := takeFitting whole t.fraction
  let places := t.fraction.length - rest.length
  Decimal.scaled? significand (t.power + dropped.length - places)

/-- The double nearest to a token; a size beyond every double is infinite. -/
def Token.nearest (t : Token) : Float :=
  let digits := digitsValue (t.whole ++ t.fraction)
  let power := t.power - t.fraction.length
  let length : Int := t.whole.length + t.fraction.length
  if digits = 0 then 0
  else if 400 < power + length ∧ 400 < power then 1.0 / 0.0
  else if power + length < -400 then 0
  else if power < 0 then Float.ofScientific digits true (-power).toNat
  else Float.ofScientific digits false power.toNat

/-- Split an unsigned decimal into its token. Either side of the point may be empty, but not
    both; a power needs a digit. -/
def Token.ofText? (text : List Char) : Option Token :=
  let (whole, rest) := text.span Char.isDigit
  let (fraction, rest) :=
    match rest with
    | '.' :: rest => rest.span Char.isDigit
    | rest => ([], rest)
  if whole.isEmpty && fraction.isEmpty then none
  else
    match rest with
    | [] => some ⟨whole, fraction, 0⟩
    | e :: rest =>
      if e ≠ 'e' ∧ e ≠ 'E' then none
      else
        match rest with
        | '-' :: digits => (natural? digits).map fun n => ⟨whole, fraction, -(n : Int)⟩
        | '+' :: digits => (natural? digits).map fun n => ⟨whole, fraction, n⟩
        | digits => (natural? digits).map fun n => ⟨whole, fraction, n⟩

end Decimal

end AlertEngine
