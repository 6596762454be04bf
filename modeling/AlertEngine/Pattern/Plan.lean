import AlertEngine.Pattern.CharClass

/-! # Plans of automata

What an automaton for a pattern is built from. A plan is simplified where it is put together:
neighbouring characters are one text, a choice of single characters is one class, sequences and
choices inside their own kind are flat, and what takes no character is repeated once at most.
-/

namespace AlertEngine

inductive Plan where
  /-- Characters one after the other; none is the plan of the empty pattern. -/
  | text (characters : List Char)
  | among (characters : CharClass)
  /-- A place between two characters. -/
  | place
  | repeated (body : Plan) (least : Nat) (greatest : Option Nat)
  /-- A group whose place in the text is kept. -/
  | group (body : Plan)
  | sequence (parts : List Plan)
  | choice (parts : List Plan)

namespace Plan

mutual

/-- Whether a plan never takes a character. -/
def takesNothing : Plan → Bool
  | .text characters => characters.isEmpty
  | .among _ => false
  | .place => true
  | .repeated body _ _ => body.takesNothing
  | .group body => body.takesNothing
  | .sequence parts => allTakeNothing parts
  | .choice parts => allTakeNothing parts

def allTakeNothing : List Plan → Bool
  | [] => true
  | part :: rest => part.takesNothing && allTakeNothing rest

end

mutual

/-- Whether a plan always takes a character. -/
def takesSomething : Plan → Bool
  | .text characters => !characters.isEmpty
  | .among characters => !characters.ranges.isEmpty
  | .place => false
  | .repeated body least _ => least ≠ 0 && body.takesSomething
  | .group body => body.takesSomething
  | .sequence parts => anyTakesSomething parts
  | .choice parts => allTakeSomething parts

def anyTakesSomething : List Plan → Bool
  | [] => false
  | part :: rest => part.takesSomething || anyTakesSomething rest

def allTakeSomething : List Plan → Bool
  | [] => true
  | part :: rest => part.takesSomething && allTakeSomething rest

end

def ofClass (among : CharClass) : Plan :=
  match among.only? with
  | some c => .text [c]
  | none => .among among

/-- Repeat a plan. No repetition at all is the empty text, and exactly one is the plan itself. -/
def ofRepeated (body : Plan) (least : Nat) (greatest : Option Nat) : Plan :=
  let once := body.takesNothing
  let least := if once then min least 1 else least
  let greatest := if once then some (min (greatest.getD 1) 1) else greatest
  if greatest = some 0 then .text []
  else if least = 1 ∧ greatest = some 1 then body
  else .repeated body least greatest

/-- The parts of a sequence, and a plan that is none as its only part. -/
def links : Plan → List Plan
  | .sequence parts => parts
  | plan => [plan]

/-- Put a part in front of a sequence. -/
def prepend : Plan → List Plan → List Plan
  | .text [], rest => rest
  | .text characters, .text others :: rest => .text (characters ++ others) :: rest
  | part, rest => part :: rest

def ofSequence (parts : List Plan) : Plan :=
  match (parts.flatMap links).foldr prepend [] with
  | [] => .text []
  | [part] => part
  | parts => .sequence parts

/-- The parts of a choice, and a plan that is none as its only part. -/
def alternatives : Plan → List Plan
  | .choice parts => parts
  | plan => [plan]

/-- The characters of a plan that takes exactly one. -/
def class? : Plan → Option CharClass
  | .text [c] => some (.single c)
  | .among characters => some characters
  | _ => none

def ofChoice (parts : List Plan) : Plan :=
  match parts.flatMap alternatives with
  | [part] => part
  | parts =>
    match parts.mapM class? with
    | some classes => ofClass (.unionOf classes)
    | none => .choice parts

end Plan

end AlertEngine
