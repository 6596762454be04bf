/-! # Shortest decimals

Every finite double stands for a whole interval of numbers that round to it. The shortest
decimal of a double is the one with the fewest digits in that interval and, among those, the
nearest. Everything is computed on whole numbers: a double is `mantissa * 2 ^ exponent`, and a
decimal is `digits * 10 ^ exponent`. In answers, messages and displays the digits stand around a
point and never with an exponent, whole numbers have no fraction, and every negative number has a
sign, zero included.
-/

namespace AlertEngine

/-- The number `digits * 10 ^ exponent`. -/
structure Decimal where
  digits : Nat
  exponent : Int
  deriving Repr, DecidableEq

namespace Decimal

/-- The size of a finite double, `mantissa * 2 ^ exponent`, and whether the next smaller double
    is only half as far away as the next greater one. -/
structure Binary where
  mantissa : Nat
  exponent : Int
  narrowBelow : Bool
  deriving Repr, DecidableEq

/-- The size of the double with these bits; the bits of an infinity or of no number are not
    asked for. -/
def Binary.ofBits (bits : UInt64) : Binary :=
  let fraction : Nat := (bits &&& 0xFFFFFFFFFFFFF).toNat
  let power : Nat := (bits >>> 52 &&& 0x7FF).toNat
  if power = 0 then ⟨fraction, -1074, false⟩
  else ⟨0x10000000000000 + fraction, (power : Int) - 1075, fraction = 0 ∧ 1 < power⟩

/-- How many decimal digits a number has; zero has none. -/
def digitCount (n : Nat) : Nat :=
  if n = 0 then 0 else digitCount (n / 10) + 1

/-- The same number without zeros at the end of its digits. -/
def reduced (digits : Nat) (exponent : Int) : Decimal :=
  if h : digits ≠ 0 ∧ digits % 10 = 0 then reduced (digits / 10) (exponent + 1)
  else ⟨digits, exponent⟩
termination_by digits
decreasing_by omega

/-- A positive number as a fraction with the interval that rounds to it, all three bounds over
    one denominator. -/
structure Window where
  low : Nat
  value : Nat
  high : Nat
  denominator : Nat
  closed : Bool
  deriving Repr, DecidableEq

/-- The interval reaches half-way to both neighbours, and its ends belong to it if the mantissa
    is even. -/
def Binary.window (x : Binary) : Window :=
  let up := 1 <<< x.exponent.toNat
  let down := 1 <<< (-x.exponent).toNat
  let below := if x.narrowBelow then 1 else 2
  { low := (4 * x.mantissa - below) * up
    value := 4 * x.mantissa * up
    high := (4 * x.mantissa + 2) * up
    denominator := 4 * down
    closed := x.mantissa % 2 = 0 }

/-- The exponent `k` with `10 ^ (k - 1) ≤ value < 10 ^ k`. -/
def Window.magnitude (w : Window) : Int :=
  if w.denominator ≤ w.value then digitCount (w.value / w.denominator)
  else 1 - (digitCount ((w.denominator - 1) / w.value) : Int)

/-- Whether `numerator / denominator` lies in the interval, its denominator being
    `scale` times that of the interval. -/
def Window.holds (w : Window) (numerator scale : Nat) : Bool :=
  let low := w.low * scale
  let high := w.high * scale
  if w.closed then low ≤ numerator && numerator ≤ high
  else low < numerator && numerator < high

/-- The decimal on the grid of `10 ^ exponent` that is in the interval and nearest to the
    value, the greater of two at the same distance. -/
def Window.onGrid? (w : Window) (exponent : Int) : Option Decimal :=
  let up := Nat.pow 10 exponent.toNat
  let down := Nat.pow 10 (-exponent).toNat
  let unit := w.denominator * up
  let floor := w.value * down / unit
  let below := floor * unit
  let above := (floor + 1) * unit
  let target := w.value * down
  let belowIn := w.holds below down
  let aboveIn := w.holds above down
  if belowIn && (!aboveIn || target - below < above - target) then some (reduced floor exponent)
  else if aboveIn then some (reduced (floor + 1) exponent)
  else none

/-- The shortest decimal of a positive double: the coarsest of the grids of one to seventeen
    digits that meets the interval. -/
def ofBinary (x : Binary) : Decimal :=
  let w := x.window
  let k := w.magnitude
  ((List.range 17).findSome? fun i => w.onGrid? (k - (i + 1 : Nat))).getD ⟨0, 0⟩

/-- Digits with the point in its place. -/
def plainDigits (d : Decimal) : String :=
  let digits := Nat.toDigits 10 d.digits
  if 0 ≤ d.exponent then
    String.ofList (digits ++ List.replicate d.exponent.toNat '0')
  else
    let places := (-d.exponent).toNat
    if places < digits.length then
      let whole := digits.length - places
      String.ofList (digits.take whole ++ '.' :: digits.drop whole)
    else
      String.ofList ('0' :: '.' :: (List.replicate (places - digits.length) '0' ++ digits))

def plainText (x : Float) : String :=
  let sign := if x.toBits >>> 63 = 1 then "-" else ""
  if x.isNaN then "NaN"
  else if x.isInf then sign ++ "inf"
  else
    let size := Binary.ofBits x.toBits
    if size.mantissa = 0 then sign ++ "0" else sign ++ plainDigits (ofBinary size)

end Decimal

end AlertEngine
