import AlertEngine.Pattern.Escape
import AlertEngine.Pattern.Piece

/-! # Classes in brackets

The items of a class are characters, ranges, escapes, named classes and classes in brackets of
their own, and operators stand between groups of items.
-/

namespace AlertEngine.Pattern

/-- A character in a class. -/
def classLiteral (flags : Flags) (c : Char) : Except Error Atom :=
  if flags.ascii ∧ 128 ≤ c.toNat then .error .beyondAscii else .ok (.literal c)

/-- One end of a range, or an item by itself. -/
def classAtom (flags : Flags) : List Char → Except Error (Atom × List Char)
  | [] => .error .unclosedClass
  | '\\' :: rest => do
    let (atom, rest) ← escape flags rest
    match atom with
    | .literal c => (classLiteral flags c).map fun atom => (atom, rest)
    | atom => pure (atom, rest)
  | c :: rest => (classLiteral flags c).map fun atom => (atom, rest)

def Atom.literal? : Atom → Except Error Char
  | .literal c => .ok c
  | _ => .error .badRange

def Atom.item : Atom → Except Error CharClass
  | .literal c => .ok (.single c)
  | .among characters => .ok characters
  | .place _ => .error .unknownEscape

/-- A range, or an item by itself: a hyphen before the closing bracket or before another hyphen
    makes no range. -/
def classItem (flags : Flags) (text : List Char) : Except Error (CharClass × List Char) := do
  let (first, rest) ← classAtom flags text
  match flags.skip rest with
  | [] => .error .unclosedClass
  | '-' :: behind =>
    match flags.skip behind with
    | [] => .error .unclosedClass
    | c :: rest' =>
      if c = ']' ∨ c = '-' then do
        let item ← first.item
        pure (item, '-' :: behind)
      else do
        let (last, rest) ← classAtom flags (c :: rest')
        let first ← first.literal?
        let last ← last.literal?
        if first ≤ last then pure (.range first last, rest) else .error .reversedRange
  | rest => do
    let item ← first.item
    pure (item, rest)

/-- A named class such as `[:alpha:]`, behind its opening bracket. -/
def namedClass? (flags : Flags) : List Char → Option (Except Error CharClass × List Char)
  | ':' :: rest =>
    let (negated, rest) :=
      match rest with
      | '^' :: rest => (true, rest)
      | rest => (false, rest)
    let (name, behind) := rest.span (· ≠ ':')
    match behind, CharClass.named? (String.ofList name) with
    | ':' :: ']' :: behind, some named =>
      some (if negated then flags.complement named else .ok named, behind)
    | _, _ => none
  | _ => none

inductive ClassOperator where
  | inter
  | difference
  | symmetricDifference
  deriving Repr, DecidableEq

def ClassOperator.apply : ClassOperator → CharClass → CharClass → CharClass
  | .inter, left, right => left.inter right
  | .difference, left, right => left.difference right
  | .symmetricDifference, left, right => left.symmetricDifference right

/-- The items of a class read so far: their characters, and how deeply each item is nested. -/
structure ClassItems where
  among : CharClass := .empty
  depths : List Nat := []
  deriving Repr, DecidableEq

namespace ClassItems

def add (items : ClassItems) (among : CharClass) (depth : Nat) : ClassItems :=
  ⟨items.among.union among, depth :: items.depths⟩

def depth (items : ClassItems) : Nat := depthOf items.depths

end ClassItems

/-- An operand and the operator behind it. -/
structure ClassOperand where
  among : CharClass
  depth : Nat
  operator : ClassOperator
  deriving Repr, DecidableEq

/-- Join what has been read of a class to the operand before it. -/
def joinOperand (flags : Flags) (before : Option ClassOperand) (items : ClassItems) :
    CharClass × Nat :=
  match before with
  | none => (items.among, items.depth)
  | some left =>
    (left.operator.apply (flags.foldCase left.among) (flags.foldCase items.among),
      max left.depth items.depth + 1)

/-- The hyphens and the closing bracket that are literals at the start of a class. -/
def leadingLiterals (flags : Flags) : Nat → ClassItems → List Char → ClassItems × List Char
  | fuel + 1, items, '-' :: rest =>
    leadingLiterals flags fuel (items.add (.single '-') 0) (flags.skip rest)
  | _, items, ']' :: rest =>
    if items.depths.isEmpty then (items.add (.single ']') 0, flags.skip rest)
    else (items, ']' :: rest)
  | _, items, rest => (items, rest)

/-- A class behind its opening bracket, and how deeply its content is nested. -/
def classBody (flags : Flags) : Nat → Bool → Option ClassOperand → ClassItems →
    List Char → Except Error (CharClass × Nat × List Char)
  | 0, _, _, _, _ => .error .unclosedClass
  | fuel + 1, negated, before, items, text =>
    let operate (operator : ClassOperator) (rest : List Char) :=
      let (among, depth) := joinOperand flags before items
      classBody flags fuel negated (some ⟨among, depth, operator⟩) {} rest
    match flags.skip text with
    | [] => .error .unclosedClass
    | ']' :: rest =>
      let (among, depth) := joinOperand flags before items
      let whole := flags.foldCase among
      if negated then (flags.complement whole).map fun among => (among, depth, rest)
      else .ok (whole, depth, rest)
    | '[' :: rest =>
      match namedClass? flags rest with
      | some (named, rest) => do
        let named ← named
        classBody flags fuel negated before (items.add named 0) rest
      | none => do
        let (innerNegated, rest) :=
          match flags.skip rest with
          | '^' :: rest => (true, flags.skip rest)
          | rest => (false, rest)
        let (start, rest) := leadingLiterals flags fuel {} rest
        let (inner, depth, rest) ← classBody flags fuel innerNegated none start rest
        classBody flags fuel negated before (items.add inner (depth + 1)) rest
    | '&' :: '&' :: rest => operate .inter rest
    | '-' :: '-' :: rest => operate .difference rest
    | '~' :: '~' :: rest => operate .symmetricDifference rest
    | rest => do
      let (item, rest) ← classItem flags rest
      classBody flags fuel negated before (items.add item 0) rest

/-- A class behind its first opening bracket. The fuel is the length of the text or more. -/
def bracketClass (fuel : Nat) (flags : Flags) (text : List Char) :
    Except Error (Piece × List Char) := do
  let (negated, rest) :=
    match flags.skip text with
    | '^' :: rest => (true, flags.skip rest)
    | rest => (false, rest)
  let (start, rest) := leadingLiterals flags fuel {} rest
  let (among, depth, rest) ← classBody flags (fuel + 1) negated none start rest
  pure (.bracket among depth, rest)

end AlertEngine.Pattern
