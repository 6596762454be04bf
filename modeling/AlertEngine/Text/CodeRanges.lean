/-! # Ranges of code points

Sets of characters as ascending ranges of code points that neither overlap nor touch. A set is
written as lines of text: hexadecimal ranges separated by spaces, such as `30-39 5f`.
-/

namespace AlertEngine

/-- The value of a hexadecimal digit of either case. -/
def hexDigit? (c : Char) : Option Nat :=
  if '0' ≤ c ∧ c ≤ '9' then some (c.toNat - '0'.toNat)
  else if 'a' ≤ c ∧ c ≤ 'f' then some (c.toNat - 'a'.toNat + 10)
  else if 'A' ≤ c ∧ c ≤ 'F' then some (c.toNat - 'A'.toNat + 10)
  else none

/-- The number written by hexadecimal digits; other characters count as zero. -/
def hexValue (digits : List Char) : Nat :=
  digits.foldl (fun value c => value * 16 + (hexDigit? c).getD 0) 0

/-- Lower-case hexadecimal digits without leading zeros. -/
def hexText (n : Nat) : List Char :=
  Nat.toDigits 16 n

/-- Code points from `first` to `last`, both included. -/
structure CodeRange where
  first : Nat
  last : Nat
  deriving Repr, DecidableEq

/-- The pieces of a text between separators. -/
def pieces (separator : Char) (text : List Char) : List (List Char) :=
  text.foldr
    (fun c parts =>
      match parts with
      | part :: rest => if c = separator then [] :: part :: rest else (c :: part) :: rest
      | [] => [])
    [[]]

namespace CodeRange

def contains (range : CodeRange) (c : Char) : Bool :=
  range.first ≤ c.toNat && c.toNat ≤ range.last

def ofText (text : List Char) : CodeRange :=
  match pieces '-' text with
  | [first, last] => ⟨hexValue first, hexValue last⟩
  | _ => ⟨hexValue text, hexValue text⟩

/-- Join a range with those behind it that it overlaps or touches. -/
def joinFrom (range : CodeRange) : List CodeRange → List CodeRange
  | [] => [range]
  | next :: rest =>
    if next.first ≤ range.last + 1 then joinFrom ⟨range.first, max range.last next.last⟩ rest
    else range :: joinFrom next rest

/-- The code points from `start` on that no range covers. -/
def gapsFrom (start : Nat) : List CodeRange → List CodeRange
  | [] => if start ≤ 0x10FFFF then [⟨start, 0x10FFFF⟩] else []
  | range :: rest =>
    if start < range.first then ⟨start, range.first - 1⟩ :: gapsFrom (range.last + 1) rest
    else gapsFrom (range.last + 1) rest

end CodeRange

structure CodeRanges where
  ranges : List CodeRange
  deriving Repr, DecidableEq

namespace CodeRanges

/-- The set of ranges in ascending order, which may overlap. -/
private def ofAscending : List CodeRange → CodeRanges
  | [] => ⟨[]⟩
  | range :: rest => ⟨range.joinFrom rest⟩

/-- The set of ranges in any order. -/
def ofRanges (ranges : List CodeRange) : CodeRanges :=
  ofAscending (ranges.mergeSort fun a b => a.first ≤ b.first)

def ofLines (lines : List String) : CodeRanges :=
  ⟨lines.flatMap fun line => (pieces ' ' line.toList).map CodeRange.ofText⟩

def contains (set : CodeRanges) (c : Char) : Bool :=
  set.ranges.any (·.contains c)

def empty : CodeRanges := ⟨[]⟩

def single (c : Char) : CodeRanges := ⟨[⟨c.toNat, c.toNat⟩]⟩

def range (first last : Char) : CodeRanges := ⟨[⟨first.toNat, last.toNat⟩]⟩

/-- The only character of a set that has one. -/
def only? (set : CodeRanges) : Option Char :=
  match set.ranges with
  | [range] => if range.first = range.last then some (Char.ofNat range.first) else none
  | _ => none

def union (left right : CodeRanges) : CodeRanges :=
  ofAscending (List.merge left.ranges right.ranges fun a b => a.first ≤ b.first)

/-- All other code points. -/
def complement (set : CodeRanges) : CodeRanges :=
  ⟨CodeRange.gapsFrom 0 set.ranges⟩

def inter (left right : CodeRanges) : CodeRanges :=
  (left.complement.union right.complement).complement

def difference (left right : CodeRanges) : CodeRanges :=
  left.inter right.complement

def symmetricDifference (left right : CodeRanges) : CodeRanges :=
  (left.difference right).union (right.difference left)

def unionOf (parts : List CodeRanges) : CodeRanges :=
  parts.foldl union empty

end CodeRanges

end AlertEngine
