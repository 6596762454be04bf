import AlertEngine.Decimal.Reading

/-! # Paths of settings

A path leads through tables by name and through lists by index. It is written as names with points
between them, each of which may be followed by indices in brackets, such as `hosts.ports[0]`.
-/

namespace AlertEngine

/-- One way on along a path. -/
inductive PathStep where
  | name (name : String)
  /-- An index, which counts from the end if it is negative. -/
  | index (index : Int)
  deriving Repr, DecidableEq

/-- A way through settings. -/
abbrev Path := List PathStep

namespace Path

/-- Characters of the names in a path. -/
def isNameChar (c : Char) : Bool :=
  c.isAlphanum || c = ' ' || c = '_' || c = '-'

/-- A name off the front of a text. -/
def name? (text : List Char) : Option (PathStep × List Char) :=
  match text.span isNameChar with
  | ([], _) => none
  | (name, rest) => some (.name (String.ofList name), rest)

def dropSpaces (text : List Char) : List Char :=
  text.dropWhile fun c => c = ' ' || c = '\t'

/-- An index behind its opening bracket, which may have spaces around it. -/
def index? (text : List Char) : Option (PathStep × List Char) := do
  let (negative, text) :=
    match dropSpaces text with
    | '-' :: rest => (true, rest)
    | rest => (false, rest)
  let (digits, rest) := text.span Char.isDigit
  let size ← Decimal.natural? digits
  let index : Int := if negative then -size else size
  match dropSpaces rest with
  | ']' :: rest => if fitsSigned index then some (.index index, rest) else none
  | _ => none

/-- The steps behind the first one. Every step takes at least one character, so the length of the
    text is fuel enough. -/
def steps? : Nat → List Char → Option Path
  | _, [] => some []
  | 0, _ => none
  | fuel + 1, c :: rest => do
    let (step, rest) ←
      match c with
      | '.' => name? rest
      | '[' => index? rest
      | _ => none
    let steps ← steps? fuel rest
    pure (step :: steps)

/-- The path that a text stands for. What is not written as one is a single name. -/
def ofText (text : String) : Path :=
  let path? : Option Path := do
    let (step, rest) ← name? text.toList
    let steps ← steps? rest.length rest
    pure (step :: steps)
  path?.getD [.name text]

end Path

end AlertEngine
