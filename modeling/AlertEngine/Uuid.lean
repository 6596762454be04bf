import AlertEngine.Text.CodeRanges

/-! # Unique identifiers

An identifier is thirty-two hexadecimal digits. It is written in lower case in groups of 8, 4,
4, 4 and 12 with hyphens between them, and read in that form, in braces, behind `urn:uuid:`, or
without hyphens.
-/

namespace AlertEngine

structure Uuid where
  digits : List (Fin 16)
  length_eq : digits.length = 32
  deriving DecidableEq

namespace Uuid

instance : Inhabited Uuid := ⟨List.replicate 32 0, rfl⟩

instance : Ord Uuid := ⟨fun x y => compare x.digits y.digits⟩

instance : Std.TransOrd Uuid where
  eq_swap := Std.OrientedOrd.eq_swap (α := List (Fin 16))
  isLE_trans := Std.TransOrd.isLE_trans (α := List (Fin 16))

instance : Std.LawfulEqOrd Uuid where
  compare_self := Std.ReflOrd.compare_self (α := List (Fin 16))
  eq_of_compare {x y} h := by
    have hd : x.digits = y.digits := Std.LawfulEqOrd.eq_of_compare h
    cases x
    cases y
    simp_all

/-- Hexadecimal digits of either case, and nothing else. -/
def digits? : List Char → Option (List (Fin 16))
  | [] => some []
  | c :: rest =>
    match hexDigit? c, digits? rest with
    | some n, some digits => some (Fin.ofNat 16 n :: digits)
    | _, _ => none

/-- The digits of the hyphenated form, the hyphens in their places. -/
def unhyphenated? (text : List Char) : Option (List Char) :=
  let group (start length : Nat) := (text.drop start).take length
  if text.length = 36 ∧ [8, 13, 18, 23].all (fun i => text[i]? = some '-') then
    some (group 0 8 ++ group 9 4 ++ group 14 4 ++ group 19 4 ++ group 24 12)
  else none

def ofChars? (text : List Char) : Option Uuid := do
  let plain ←
    if text.length = 32 then some text
    else if text.length = 38 ∧ text.head? = some '\x7b' ∧ text.getLast? = some '\x7d' then
      unhyphenated? (text.drop 1).dropLast
    else if "urn:uuid:".toList.isPrefixOf text then unhyphenated? (text.drop 9)
    else unhyphenated? text
  let digits ← digits? plain
  if h : digits.length = 32 then some ⟨digits, h⟩ else none

def ofText? (text : String) : Option Uuid :=
  ofChars? text.toList

/-- The hyphenated form in lower case. -/
def chars (id : Uuid) : List Char :=
  let text := id.digits.map fun digit : Fin 16 => Nat.digitChar digit.val
  let group (start length : Nat) := (text.drop start).take length
  group 0 8 ++ '-' :: group 8 4 ++ '-' :: group 12 4 ++ '-' :: group 16 4 ++ '-' :: group 20 12

def text (id : Uuid) : String :=
  String.ofList id.chars

/-- The identifier of 128 random bits, six of which give way to the mark of a random one. -/
def ofRandom (bits : Nat) : Uuid :=
  ⟨(List.range 32).map fun i =>
    let digit := Fin.ofNat 16 (bits >>> (4 * i))
    if i = 12 then 4 else if i = 16 then 8 + digit % 4 else digit, by simp⟩

end Uuid

end AlertEngine
