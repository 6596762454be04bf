import AlertEngine.Pattern.Plan
import AlertEngine.Text.ByteRanges

/-! # The room that automata take

A search runs an automaton over the bytes of a text, once forwards to find where a match ends and
once backwards to find where it starts. An automaton is a list of states. A pattern is refused if
one of its automata takes too much room, which mostly means that it repeats too much too often.
-/

namespace AlertEngine.Room

/-- The room for one state, in bytes. -/
def state : Nat := 32

/-- The room for a range of bytes in a state that has a list of them. -/
def edge : Nat := 8

/-- The room for one way out of a state that branches. -/
def branch : Nat := 4

/-- The room for both automata each, ten mebibytes. -/
def limit : Nat := 10485760

/-- The ranges of bytes out of a state, each with the number of the state behind it. The state at
    the end has number 0. -/
abbrev Node := List (ByteRange × Nat)

/-- The number of a node. A node that was met before is not made again. -/
def share (node : Node) (nodes : List Node) : Nat × List Node :=
  match nodes.findIdx? (· = node) with
  | some i => (nodes.length - i, nodes)
  | none => (nodes.length + 1, node :: nodes)

/-- Make the nodes for sequences of byte ranges in ascending order. Neighbours that begin with
    the same range go through one node. The fuel is the greatest length of a sequence. -/
def nodesFor : Nat → List (List ByteRange) → List Node → Nat × List Node
  | 0, _, nodes => (0, nodes)
  | fuel + 1, sequences, nodes =>
    let groups := sequences.splitBy fun a b => a.head? = b.head?
    let (node, nodes) := groups.foldl
      (fun (node, nodes) group =>
        match group with
        | (range :: []) :: _ => ((range, 0) :: node, nodes)
        | (range :: _) :: _ =>
          let (number, nodes) := nodesFor fuel (group.map List.tail) nodes
          ((range, number) :: node, nodes)
        | _ => (node, nodes))
      (([] : Node), nodes)
    share node nodes

/-- The states for a class read forwards, which share all endings. -/
def forwardClass (sequences : List (List ByteRange)) : Nat :=
  let (_, nodes) := nodesFor 4 sequences []
  nodes.foldl (fun room node => room + state + edge * node.length) state

/-- How many ranges two sequences have in common at the start. -/
def commonStart : List ByteRange → List ByteRange → Nat
  | a :: as, b :: bs => if a = b then commonStart as bs + 1 else 0
  | _, _ => 0

/-- The states for a class read backwards, which share equal beginnings of the encoded forms. -/
def backwardClass (sequences : List (List ByteRange)) : Nat :=
  let step (room : Nat) (before sequence : List ByteRange) : Nat :=
    room + branch + state * (sequence.length - commonStart before sequence)
  (sequences.foldl (fun (room, before) sequence => (step room before sequence, sequence))
    (2 * state, [])).1

def forClass (backward : Bool) (among : CharClass) : Nat :=
  if among.ranges.all (·.last < 0x80) then 2 * state + edge * among.ranges.length
  else
    let sequences := among.ranges.flatMap ByteRange.sequences
    if backward then backwardClass sequences else forwardClass sequences

/-- The bytes of a text in the order in which they are read. -/
def bytes (backward : Bool) (characters : List Char) : List UInt8 :=
  let encoded := characters.flatMap String.utf8EncodeChar
  if backward then encoded.reverse else encoded

/-- The words between those that are over. -/
def runs : List (List UInt8) → List (List (List UInt8))
  | [] => [[]]
  | [] :: rest => [] :: runs rest
  | word :: rest =>
    match runs rest with
    | run :: others => (word :: run) :: others
    | [] => [[word]]

/-- The states for a choice of words, which share equal beginnings as far as the order of the
    choice allows. The fuel is greater than the length of every word. -/
def forWords : Nat → List (List UInt8) → Nat
  | 0, _ => 0
  | fuel + 1, words =>
    (runs words).foldl
      (fun room run =>
        let firsts := (run.filterMap List.head?).eraseDups
        let behind := firsts.foldl
          (fun room first =>
            let rests := (run.filter (·.head? = some first)).map List.tail
            if rests.all List.isEmpty then room else room + forWords fuel rests)
          0
        let own :=
          match firsts.length with
          | 0 => 0
          | 1 => state + branch
          | count => state + edge * count + branch
        room + branch + own + behind)
      (state - branch)

/-- The room for a repetition, given that of one round. -/
def forRepeated (round : Nat) (takesSomething : Bool) (least : Nat) : Option Nat → Nat
  | none =>
    if least ≠ 0 then least * round + state + 2 * branch
    else if takesSomething then round + state + 2 * branch
    else round + 3 * state + 4 * branch
  | some greatest =>
    if least = greatest then greatest * round
    else if least = 0 ∧ greatest = 1 then round + 2 * state + 2 * branch
    else
      (if least = 0 then state else least * round) + state
        + (greatest - least) * (round + state + 2 * branch)

def characters? : Plan → Option (List Char)
  | .text [] => none
  | .text characters => some characters
  | _ => none

mutual

def forPlan (backward : Bool) : Plan → Nat
  | .text characters => state * max 1 (bytes backward characters).length
  | .among characters => forClass backward characters
  | .place => state
  | .repeated body least greatest =>
    forRepeated (forPlan backward body) body.takesSomething least greatest
  | .group body => (if backward then 0 else 2 * state) + forPlan backward body
  | .sequence parts => forParts backward parts
  | .choice parts =>
    match parts.mapM characters? with
    | some texts =>
      let words := texts.map (bytes backward)
      state + forWords (words.foldl (fun n word => max n word.length) 0 + 1) words
    | none => 2 * state + branch * parts.length + forParts backward parts

def forParts (backward : Bool) : List Plan → Nat
  | [] => 0
  | part :: rest => forPlan backward part + forParts backward rest

end

/-- The room for an automaton that may start its search at any byte, and that keeps the place of
    the whole match if it runs forwards. -/
def forSearch (backward : Bool) (plan : Plan) : Nat :=
  let anyByte := 3 * state + edge + 2 * branch
  let ends := if backward then state else 3 * state
  anyByte + ends + forPlan backward plan

def isEnoughFor (plan : Plan) : Bool :=
  forSearch false plan ≤ limit && forSearch true plan ≤ limit

end AlertEngine.Room
