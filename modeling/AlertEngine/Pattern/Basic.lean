import AlertEngine.Pattern.CharClass

/-! # Patterns

Regular expressions that are searched for in a text. A set of positions in the text is a number
whose bits are the positions. A pattern is laid on the text once; it then takes the set of
positions where it starts to the set of positions where it can end.
-/

namespace AlertEngine

/-- What written patterns mean. One that has a meaning is a test of texts, and any other is refused
    for a reason. -/
class PatternLanguage where
  compile : String → Except String (String → Bool)

/-- What a place between two characters is asked to be as to words. The halves ask for one side
    only. -/
inductive WordPlace where
  | boundary
  | noBoundary
  | start
  | finish
  | startHalf
  | finishHalf
  deriving Repr, DecidableEq

/-- What a place between two characters is asked to be. -/
inductive Anchor where
  | textStart
  | textEnd
  | lineStart
  | lineEnd
  /-- The start of a line that ends in a carriage return, a line feed, or both. -/
  | anyLineStart
  | anyLineEnd
  /-- A place as to words, which may be those of ASCII. -/
  | word (place : WordPlace) (ascii : Bool)
  deriving Repr, DecidableEq

inductive Pattern where
  | empty
  | char (among : CharClass)
  | anchor (anchor : Anchor)
  | sequence (first second : Pattern)
  | either (left right : Pattern)
  /-- At least `least` times and, if a greatest number is given, at most that often. -/
  | repeated (body : Pattern) (least : Nat) (greatest : Option Nat)
  deriving Repr, DecidableEq

/-- Whether a place is such a one, given whether there is a word before and after it. -/
def WordPlace.holds : WordPlace → Bool → Bool → Bool
  | .boundary, before, after => before != after
  | .noBoundary, before, after => before == after
  | .start, before, after => !before && after
  | .finish, before, after => before && !after
  | .startHalf, before, _ => !before
  | .finishHalf, _, after => !after

namespace Anchor

private def isWordAt (ascii : Bool) (c : Option Char) : Bool :=
  c.any fun c => Text.isWord c && !(ascii && 128 ≤ c.toNat)

/-- Whether the anchor holds between two characters; at an end of the text one is missing. -/
def holds (anchor : Anchor) (before after : Option Char) : Bool :=
  match anchor with
  | .textStart => before.isNone
  | .textEnd => after.isNone
  | .lineStart => before.isNone || before = some '\n'
  | .lineEnd => after.isNone || after = some '\n'
  | .anyLineStart =>
    before.isNone || before = some '\n' || (before = some '\r' && after ≠ some '\n')
  | .anyLineEnd =>
    after.isNone || after = some '\r' || (after = some '\n' && before ≠ some '\r')
  | .word place ascii => place.holds (isWordAt ascii before) (isWordAt ascii after)

end Anchor

namespace Pattern

/-- The positions whose character satisfies `p`. -/
def charMask (p : Char → Bool) : List Char → Nat
  | [] => 0
  | c :: rest => 2 * charMask p rest + if p c then 1 else 0

/-- The positions, the end included, where `p` holds of the characters around them. -/
def placeMask (p : Option Char → Option Char → Bool) (before : Option Char) : List Char → Nat
  | [] => if p before none then 1 else 0
  | c :: rest =>
    2 * placeMask p (some c) rest + if p before (some c) then 1 else 0

/-- A pattern laid on a text: characters and anchors have become the positions where they
    hold. -/
inductive Laid where
  | stay
  /-- Go on by one character from these positions. -/
  | advance (positions : Nat)
  /-- Stay where one of these positions is. -/
  | hold (positions : Nat)
  | sequence (first second : Laid)
  | either (left right : Laid)
  | repeated (body : Laid) (least : Nat) (greatest : Option Nat)

def layOn (text : List Char) : Pattern → Laid
  | .empty => .stay
  | .char among => .advance (charMask among.contains text)
  | .anchor place => .hold (placeMask place.holds none text)
  | .sequence first second => .sequence (first.layOn text) (second.layOn text)
  | .either left right => .either (left.layOn text) (right.layOn text)
  | .repeated body least greatest => .repeated (body.layOn text) least greatest

/-- Repeat a step from `mask` and collect what is reached, for `rounds` rounds or until nothing
    new is found. -/
def collect (step : Nat → Nat) : Nat → Nat → Nat
  | 0, mask => mask
  | rounds + 1, mask =>
    let next := mask ||| step mask
    if next = mask then mask else collect step rounds next

/-- Repeat a step `n` times, or until it changes nothing. -/
def iterate (step : Nat → Nat) : Nat → Nat → Nat
  | 0, mask => mask
  | n + 1, mask =>
    let next := step mask
    if next = mask then mask else iterate step n next

/-- The positions where a match can end that starts in `starts`, in a text of `length`
    characters. -/
def Laid.ends (length : Nat) : Laid → Nat → Nat
  | .stay, starts => starts
  | .advance positions, starts => (starts &&& positions) * 2
  | .hold positions, starts => starts &&& positions
  | .sequence first second, starts => second.ends length (first.ends length starts)
  | .either left right, starts => left.ends length starts ||| right.ends length starts
  | .repeated body least greatest, starts =>
    let reached := iterate (body.ends length) least starts
    match greatest with
    | none => collect (body.ends length) (length + 1) reached
    | some greatest => collect (body.ends length) (greatest - least) reached

/-- Whether the pattern matches anywhere in the text. -/
def isFoundIn (pattern : Pattern) (text : String) : Bool :=
  let chars := text.toList
  (pattern.layOn chars).ends chars.length (1 <<< (chars.length + 1) - 1) != 0

end Pattern

end AlertEngine
