import AlertEngine.Pattern.Basic

/-! # Flags and errors of patterns

Flags say how the part of a pattern that follows them is read, and errors why a pattern cannot be
read.
-/

namespace AlertEngine.Pattern

inductive Error where
  | unclosedGroup
  | unopenedGroup
  | unclosedClass
  | nothingToRepeat
  | unfinishedRepetition
  | reversedRepetition
  | reversedRange
  | badRange
  | unfinishedEscape
  | unknownEscape
  | badCodePoint
  | beyondAscii
  | invalidEncoding
  | backReference
  | lookAround
  | unknownFlag
  | repeatedFlag
  | unfinishedFlags
  | badGroupName
  | repeatedGroupName
  | nestedTooDeeply
  | tooLarge
  deriving Repr, DecidableEq

namespace Error

def message : Error → String
  | .unclosedGroup => "unclosed group"
  | .unopenedGroup => "unopened group"
  | .unclosedClass => "unclosed character class"
  | .nothingToRepeat => "repetition operator missing expression"
  | .unfinishedRepetition => "unfinished counted repetition"
  | .reversedRepetition => "invalid repetition count range"
  | .reversedRange => "invalid character class range"
  | .badRange => "a class range needs a character at each end"
  | .unfinishedEscape => "incomplete escape sequence"
  | .unknownEscape => "unrecognized escape sequence"
  | .badCodePoint => "invalid character code"
  | .beyondAscii => "a class of ASCII holds a character beyond ASCII"
  | .invalidEncoding => "pattern can match what is no text"
  | .backReference => "backreferences are not supported"
  | .lookAround => "look-around is not supported"
  | .unknownFlag => "unrecognized flag"
  | .repeatedFlag => "duplicate flag"
  | .unfinishedFlags => "unfinished flags"
  | .badGroupName => "invalid group name"
  | .repeatedGroupName => "duplicate group name"
  | .nestedTooDeeply => "nested too deeply"
  | .tooLarge => "compiled pattern is too large"

end Error

/-- How the part of a pattern that follows is read. -/
structure Flags where
  ignoreCase : Bool := false
  manyLines : Bool := false
  dotMatchesAll : Bool := false
  returnsEndLines : Bool := false
  spaced : Bool := false
  /-- Classes, words and cases are those of ASCII. -/
  ascii : Bool := false
  deriving Repr, DecidableEq

namespace Flags

/-- Pass over blanks and comments. -/
def dropSpace : Bool → List Char → List Char
  | _, [] => []
  | true, c :: rest => dropSpace (c ≠ '\n') rest
  | false, c :: rest =>
    if Text.isBlank c then dropSpace false rest
    else if c = '#' then dropSpace true rest
    else c :: rest

/-- In spaced patterns blanks and comments mean nothing. -/
def skip (flags : Flags) (text : List Char) : List Char :=
  if flags.spaced then dropSpace false text else text

def set (flags : Flags) (letter : Char) (value : Bool) : Option Flags :=
  match letter with
  | 'i' => some { flags with ignoreCase := value }
  | 'm' => some { flags with manyLines := value }
  | 's' => some { flags with dotMatchesAll := value }
  | 'R' => some { flags with returnsEndLines := value }
  | 'x' => some { flags with spaced := value }
  | 'u' => some { flags with ascii := !value }
  | 'U' => some flags
  | _ => none

/-- A class as the flags have it. -/
def foldCase (flags : Flags) (among : CharClass) : CharClass :=
  if !flags.ignoreCase then among
  else if flags.ascii then Text.asciiCaseFolded among
  else Text.caseFolded among

/-- As much of a class as there is. -/
def within (flags : Flags) (among : CharClass) : CharClass :=
  if flags.ascii then among.inter CharClass.ascii else among

/-- All but a class. Beyond ASCII there are only bytes that are no text, if classes are those of
    ASCII. -/
def complement (flags : Flags) (among : CharClass) : Except Error CharClass :=
  if flags.ascii then .error .invalidEncoding else .ok among.complement

def lineStart (flags : Flags) : Anchor :=
  if !flags.manyLines then .textStart
  else if flags.returnsEndLines then .anyLineStart
  else .lineStart

def lineEnd (flags : Flags) : Anchor :=
  if !flags.manyLines then .textEnd
  else if flags.returnsEndLines then .anyLineEnd
  else .lineEnd

def dot (flags : Flags) : Except Error CharClass :=
  if flags.dotMatchesAll then flags.complement .empty
  else if flags.returnsEndLines then flags.complement (.union (.single '\n') (.single '\r'))
  else flags.complement (.single '\n')

end Flags

end AlertEngine.Pattern
