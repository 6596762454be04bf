import AlertEngine.Document.Record
import AlertEngine.Expression.Basic

/-! # Expressions as documents

The field `type` of an expression says whether it is a comparison or a junction; its other
fields are those of the one or the other. What is inside an expression is read a little more
freely than its outermost level: there the type may be given by its number, and a name that
stands for a choice may hold an empty object.
-/

namespace AlertEngine

open Document

namespace Source

def ofJson? : Reader Source
  | .object [("metric", content)] => (text content).map .metric
  | .object [("rate", content)] => do
    let record ← Record.ofJson? ["of"] content
    (record.required "of" text).map .rate
  | .object [("percentage", content)] => do
    let record ← Record.ofJson? ["part", "whole"] content
    let part ← record.required "part" text
    let whole ← record.required "whole" text
    pure (.percentage part whole)
  | .object [("previous", content)] => do
    let record ← Record.ofJson? ["of"] content
    (record.required "of" text).map .previous
  | _ => none

def toJson : Source → Json
  | .metric name => .object [("metric", .string name)]
  | .rate of => .object [("rate", .object [("of", .string of)])]
  | .percentage part whole =>
    .object [("percentage", .object [("part", .string part), ("whole", .string whole)])]
  | .previous of => .object [("previous", .object [("of", .string of)])]

end Source

namespace Literal

def ofJson? : Reader Literal
  | .number n => some (.number n.toFloat)
  | .string s => some (.text s)
  | _ => none

def toJson : Literal → Json
  | .number value => .float value
  | .text value => .string value

end Literal

namespace Comparison

def fieldNames : List String := ["input", "comparator", "comparison_value"]

def ofRecord? (record : Record) : Option Comparison := do
  let source ← record.required "input" Source.ofJson?
  let comparator ← record.required "comparator" fun json =>
    (choiceName isNullOrEmpty json).bind Comparator.ofSymbol?
  let literal ← record.required "comparison_value" Literal.ofJson?
  pure ⟨source, comparator, literal⟩

def fields (c : Comparison) : List (String × Json) :=
  [("input", c.source.toJson), ("comparator", .string c.comparator.symbol),
    ("comparison_value", c.literal.toJson)]

end Comparison

namespace Junction

def ofName? (name : String) : Option Junction :=
  [Junction.all, Junction.any].find? (·.name = name)

def ofJson? : Reader Junction := fun json =>
  (choiceName isNullOrEmpty json).bind ofName?

end Junction

namespace Expression

/-- The two types of expressions. -/
inductive Kind where
  | comparison
  | logical
  deriving Repr, DecidableEq

def Kind.ofJson? (inner : Bool) : Reader Kind
  | .string "comparison" => some .comparison
  | .string "logical" => some .logical
  | .number (.int 0) => if inner then some .comparison else none
  | .number (.int 1) => if inner then some .logical else none
  | _ => none

/-- The type of an expression, which has to be given exactly once. -/
def kind? (inner : Bool) (fields : List (String × Json)) : Option Kind :=
  match fields.filter (·.1 = "type") with
  | [(_, json)] => Kind.ofJson? inner json
  | _ => none

mutual

def ofJsonAt? (inner : Bool) : Json → Option Expression
  | .object fields =>
    match kind? inner fields with
    | some .comparison =>
      ((Record.ofJson? Comparison.fieldNames (.object fields)).bind Comparison.ofRecord?).map
        .comparison
    | some .logical => do
      let record ← Record.ofJson? ["operator", "expressions"] (.object fields)
      let junction ← record.required "operator" Junction.ofJson?
      let parts ← partsIn fields
      pure (.junction junction parts)
    | none => none
  | .array [kind, operator, parts] =>
    match Kind.ofJson? inner kind with
    | some .logical => do
      let junction ← Junction.ofJson? operator
      let parts ← partsOf parts
      pure (.junction junction parts)
    | _ => none
  | .array [kind, source, comparator, literal] =>
    match Kind.ofJson? inner kind with
    | some .comparison =>
      ((Record.ofJson? Comparison.fieldNames (.array [source, comparator, literal])).bind
        Comparison.ofRecord?).map .comparison
    | _ => none
  | _ => none

/-- The parts of a junction among its fields. -/
def partsIn : List (String × Json) → Option (List Expression)
  | [] => none
  | (name, json) :: rest => if name = "expressions" then partsOf json else partsIn rest

def partsOf : Json → Option (List Expression)
  | .array items => partsList items
  | _ => none

def partsList : List Json → Option (List Expression)
  | [] => some []
  | item :: rest =>
    match ofJsonAt? true item, partsList rest with
    | some part, some parts => some (part :: parts)
    | _, _ => none

end

/-- All of an expression has to stand for something, whether it is read or not. -/
def ofJson? : Reader Expression := fun json =>
  if json.isMeaningful then ofJsonAt? false json else none

mutual

def toJson : Expression → Json
  | .comparison c => .object (("type", .string "comparison") :: c.fields)
  | .junction j parts =>
    .object [("type", .string "logical"), ("operator", .string j.name),
      ("expressions", .array (partsJson parts))]

def partsJson : List Expression → List Json
  | [] => []
  | part :: rest => part.toJson :: partsJson rest

end

end Expression

end AlertEngine
