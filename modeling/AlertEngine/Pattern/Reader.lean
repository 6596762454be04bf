import AlertEngine.Decimal.Reading
import AlertEngine.Pattern.Bracket
import AlertEngine.Pattern.Room
import AlertEngine.Text.Alphabetic

/-! # Reading patterns

The written form of patterns: literals, escapes, classes in brackets, groups with or without a
name, alternatives, repetitions with an optional `?` behind them, anchors, and flags. What has
no meaning here, such as looking around or back references, is an error, and so is a pattern that
is nested too deeply or takes too much room. Classes by a property of characters are not known
here, and a pattern that has one is an error too.
-/

namespace AlertEngine.Pattern

/-- A number with blanks around it. -/
def count? (flags : Flags) (text : List Char) : Option (Nat × List Char) :=
  let (digits, rest) := (Text.dropBlanks (flags.skip text)).span Char.isDigit
  let value := Decimal.digitsValue digits
  if digits.isEmpty ∨ UInt32.size ≤ value then none
  else some (value, Text.dropBlanks (flags.skip rest))

/-- The bounds behind an opening brace. -/
def bounds (flags : Flags) (text : List Char) :
    Except Error (Nat × Option Nat × List Char) := do
  let some (least, rest) := count? flags text | .error .unfinishedRepetition
  match rest with
  | '\x7d' :: rest => pure (least, some least, rest)
  | ',' :: rest =>
    match flags.skip rest with
    | '\x7d' :: rest => pure (least, none, rest)
    | rest =>
      let some (greatest, rest) := count? flags rest | .error .unfinishedRepetition
      match rest with
      | '\x7d' :: rest =>
        if least ≤ greatest then pure (least, some greatest, rest)
        else .error .reversedRepetition
      | _ => .error .unfinishedRepetition
  | _ => .error .unfinishedRepetition

/-- Pass over the mark of a repetition that prefers few rounds; whether a pattern is found does
    not depend on it. -/
def dropLazyMark : List Char → List Char
  | '?' :: rest => rest
  | rest => rest

/-- The flags of a group up to the colon or the closing parenthesis, which is left. -/
def groupFlags : Nat → Flags → List Char → Bool → Bool → List Char →
    Except Error (Flags × List Char)
  | 0, _, _, _, _, _ => .error .unfinishedFlags
  | _ + 1, _, _, _, _, [] => .error .unfinishedFlags
  | fuel + 1, flags, seen, negated, dangling, c :: rest =>
    if c = ':' ∨ c = ')' then
      if dangling then .error .unfinishedFlags else .ok (flags, c :: rest)
    else if c = '-' then
      if negated then .error .repeatedFlag
      else groupFlags fuel flags seen true true rest
    else if seen.contains c then .error .repeatedFlag
    else
      match flags.set c (!negated) with
      | none => .error .unknownFlag
      | some flags => groupFlags fuel flags (c :: seen) negated false rest

/-- The name of a group up to the closing angle bracket. -/
def groupName (text : List Char) : Except Error (String × List Char) :=
  let isFirst (c : Char) : Bool := c = '_' || Text.isAlphabetic c
  let isLater (c : Char) : Bool :=
    isFirst c || Text.isNumeric c || c = '.' || c = '[' || c = ']'
  match text.span (· ≠ '>') with
  | (c :: name, '>' :: rest) =>
    if isFirst c && name.all isLater then .ok (String.ofList (c :: name), rest)
    else .error .badGroupName
  | _ => .error .badGroupName

/-- How a group opens. -/
inductive Opening where
  /-- A group that keeps its match, with or without a name. -/
  | kept (name : Option String)
  /-- A group whose content is read with these flags. -/
  | plain (flags : Flags)
  /-- No group: the flags hold from here on. -/
  | setFlags (flags : Flags)
  deriving Repr, DecidableEq

/-- What stands behind an opening parenthesis, and the text after it. -/
def opening (flags : Flags) (text : List Char) : Except Error (Opening × List Char) :=
  match flags.skip text with
  | '?' :: '=' :: _ | '?' :: '!' :: _ | '?' :: '<' :: '=' :: _ | '?' :: '<' :: '!' :: _ =>
    .error .lookAround
  | '?' :: 'P' :: '<' :: rest | '?' :: '<' :: rest =>
    (groupName rest).map fun (name, rest) => (.kept (some name), rest)
  | '?' :: rest => do
    let (inner, rest') ← groupFlags (rest.length + 1) flags [] false false rest
    match rest' with
    | ':' :: rest => pure (.plain inner, rest)
    | ')' :: after =>
      if rest.head? = some ')' then .error .nothingToRepeat else pure (.setFlags inner, after)
    | _ => .error .unfinishedFlags
  | rest => .ok (.kept none, rest)

/-- The parts of a branch, last first; flags that were set stand as `none`. -/
abbrev Parts := List (Option Piece)

/-- How deeply patterns may be nested. -/
def nestingLimit : Nat := 250

/-- Repeat the last part. -/
def repeatLast (parts : Parts) (least : Nat) (greatest : Option Nat) : Except Error Parts :=
  match parts with
  | some part :: rest =>
    if part.depth < nestingLimit then .ok (some (part.repeated least greatest) :: rest)
    else .error .nestedTooDeeply
  | _ => .error .nothingToRepeat

def Atom.piece (flags : Flags) : Atom → Piece
  | .literal c => .character (flags.foldCase (.single c))
  | .among characters => .character characters
  | .place point => .place point

/-- A branch after the branches in front of it, the last one first. -/
def joinBranches (before : List Piece) (parts : Parts) : Piece :=
  match (Piece.ofParts parts.reverse :: before).reverse with
  | first :: others => .ofBranches first others
  | [] => .ofParts []

/-- The branches of a group, up to a closing parenthesis or the end of the text, and the group
    names seen so far. Every call takes a character off the text, so its length is fuel enough. -/
def branches : Nat → Flags → List String → List Piece → Parts → List Char →
    Except Error (Piece × List String × List Char)
  | 0, _, _, _, _, _ => .error .unclosedGroup
  | fuel + 1, flags, names, before, parts, text =>
    match flags.skip text with
    | [] => .ok (joinBranches before parts, names, [])
    | c :: rest =>
      match c with
      | ')' => .ok (joinBranches before parts, names, c :: rest)
      | '|' => branches fuel flags names (.ofParts parts.reverse :: before) [] rest
      | '*' => do
        let parts ← repeatLast parts 0 none
        branches fuel flags names before parts (dropLazyMark rest)
      | '+' => do
        let parts ← repeatLast parts 1 none
        branches fuel flags names before parts (dropLazyMark rest)
      | '?' => do
        let parts ← repeatLast parts 0 (some 1)
        branches fuel flags names before parts (dropLazyMark rest)
      | '\x7b' => do
        let (least, greatest, rest) ← bounds flags rest
        let parts ← repeatLast parts least greatest
        branches fuel flags names before parts (dropLazyMark (flags.skip rest))
      | '[' => do
        let (piece, rest) ← bracketClass fuel flags rest
        branches fuel flags names before (some piece :: parts) rest
      | '(' => do
        let (opened, rest) ← opening flags rest
        match opened with
        | .setFlags inner => branches fuel inner names before (none :: parts) rest
        | .plain inner => do
          let (body, names, rest) ← branches fuel inner names [] [] rest
          match rest with
          | ')' :: rest => branches fuel flags names before (some (body.group false) :: parts) rest
          | _ => .error .unclosedGroup
        | .kept name =>
          if name.any names.contains then .error .repeatedGroupName
          else do
            let (body, names, rest) ← branches fuel flags (name.toList ++ names) [] [] rest
            match rest with
            | ')' :: rest =>
              branches fuel flags names before (some (body.group true) :: parts) rest
            | _ => .error .unclosedGroup
      | '.' => do
        let among ← flags.dot
        branches fuel flags names before (some (.character among) :: parts) rest
      | '^' => branches fuel flags names before (some (.place flags.lineStart) :: parts) rest
      | '$' => branches fuel flags names before (some (.place flags.lineEnd) :: parts) rest
      | '\\' => do
        let (atom, rest) ← escape flags rest
        branches fuel flags names before (some (atom.piece flags) :: parts) rest
      | c =>
        branches fuel flags names before (some ((Atom.literal c).piece flags) :: parts) rest

/-- Read a pattern. -/
def read (text : String) : Except Error Pattern :=
  let chars := text.toList
  match branches (chars.length + 1) {} [] [] [] chars with
  | .error error => .error error
  | .ok (piece, _, []) =>
    if nestingLimit < piece.depth then .error .nestedTooDeeply
    else if Room.isEnoughFor piece.plan then .ok piece.pattern
    else .error .tooLarge
  | .ok _ => .error .unopenedGroup

instance language : PatternLanguage where
  compile written :=
    match read written with
    | .ok pattern => .ok pattern.isFoundIn
    | .error e => .error e.message

end AlertEngine.Pattern
