import AlertEngine.Pattern.Basic
import AlertEngine.Pattern.Plan

/-! # Pieces of patterns

What is kept of a part of a pattern while the pattern is read: what it matches, what its automaton
is built from, and how deeply its written form is nested. Groups, repetitions, classes in
brackets, sequences of two parts or more and choices are a level each.
-/

namespace AlertEngine.Pattern

structure Piece where
  pattern : Pattern
  plan : Plan
  depth : Nat

/-- The depth of parts side by side, which are a level of their own unless there is one only. -/
def depthOf : List Nat → Nat
  | [] => 0
  | [depth] => depth
  | depths => depths.foldl max 0 + 1

namespace Piece

def character (among : CharClass) : Piece := ⟨.char among, .ofClass among, 0⟩

def place (anchor : Anchor) : Piece := ⟨.anchor anchor, .place, 0⟩

/-- A class in brackets whose content is nested as deeply as given. -/
def bracket (among : CharClass) (depth : Nat) : Piece :=
  ⟨.char among, .ofClass among, depth + 1⟩

def repeated (body : Piece) (least : Nat) (greatest : Option Nat) : Piece :=
  ⟨.repeated body.pattern least greatest, .ofRepeated body.plan least greatest, body.depth + 1⟩

/-- A group, which may keep the place of what it matches. -/
def group (isKept : Bool) (body : Piece) : Piece :=
  ⟨body.pattern, if isKept then .group body.plan else body.plan, body.depth + 1⟩

/-- Parts one after the other; flags, which match nothing, stand as `none`. -/
def ofParts (parts : List (Option Piece)) : Piece :=
  let pieces := parts.filterMap id
  ⟨(pieces.map (·.pattern)).foldr .sequence .empty, .ofSequence (pieces.map (·.plan)),
    depthOf (parts.map fun part => (part.map (·.depth)).getD 0)⟩

/-- A first branch and the others. -/
def ofBranches (first : Piece) (others : List Piece) : Piece :=
  let branches := first :: others
  ⟨(others.map (·.pattern)).foldl .either first.pattern, .ofChoice (branches.map (·.plan)),
    depthOf (branches.map (·.depth))⟩

end Piece

end AlertEngine.Pattern
