import AlertEngine.Expression.Basic
import AlertEngine.Pattern.Basic
import AlertEngine.Sample

/-! # Evaluating expressions

An expression is evaluated on the current sample and, if there is one, the sample before it. A
value that is missing makes a comparison false. A comparison that cannot be made sense of, such
as a text where a number is expected, is an error, and says so even if the value is missing. What
patterns mean is left open: everything here holds of any language of patterns.
Junctions look at their parts from left to right and stop at the first one that decides.
-/

namespace AlertEngine

/-- The two kinds of values that can be compared. -/
inductive Operand where
  | number
  | text
  deriving Repr, DecidableEq

def Operand.name : Operand → String
  | .number => "numeric"
  | .text => "string"

inductive EvaluationError where
  /-- The comparator does not apply to operands of this kind. -/
  | comparator (kind : Operand) (comparison : Comparison)
  /-- Only a plain metric can be compared with a text. -/
  | source (comparison : Comparison)
  /-- A metric holds a value of the other kind. -/
  | operand (metric : String) (expected : Operand) (comparison : Comparison)
  | pattern (written reason : String)
  /-- A part of a junction failed. -/
  | part (junction : Junction) (parts : List Expression) (cause : EvaluationError)

namespace EvaluationError

/-- The text of an error, given the text of what is wrong with a pattern. -/
def messageWith (reasonText : String → String) : EvaluationError → String
  | .comparator kind c =>
    "Invalid comparator " ++ c.comparator.symbol ++ " for " ++ kind.name
      ++ " comparison in " ++ c.display
  | .source c => "Invalid " ++ Operand.text.name ++ " input type in " ++ c.display
  | .operand metric expected c =>
    "Metric " ++ metric ++ " is not a " ++ expected.name ++ " value in " ++ c.display
  | .pattern written reason => "Invalid regex " ++ written ++ ": " ++ reasonText reason
  | .part j parts cause =>
    "Sub-expression of " ++ (Expression.junction j parts).display ++ " is not valid: "
      ++ cause.messageWith reasonText

def message (e : EvaluationError) : String :=
  e.messageWith id

end EvaluationError

namespace Comparison

variable [PatternLanguage] (current : Sample) (previous : Option Sample)

/-- The number under a name, if the sample has one. -/
def number (c : Comparison) (sample : Sample) (name : String) :
    Except EvaluationError (Option Float) :=
  match sample.metric? name with
  | none => .ok none
  | some value =>
    match value.number? with
    | some x => .ok (some x)
    | none => .error (.operand name .number c)

/-- The change of a metric per second. The time between the samples counts in whole seconds, and
    without a whole second there is no rate. -/
def rate (c : Comparison) (of : String) : Except EvaluationError (Option Float) :=
  match previous with
  | none => .ok none
  | some before => do
    let now ← c.number current of
    let past ← c.number before of
    match now, past with
    | some now, some past =>
      let seconds := Timestamp.secondsBetween before.timestamp current.timestamp
      if seconds = 0 then pure none
      else pure (some ((now - past) / (Int64.ofInt seconds).toFloat))
    | _, _ => pure none

def percentage (c : Comparison) (part whole : String) :
    Except EvaluationError (Option Float) := do
  let part ← c.number current part
  let whole ← c.number current whole
  match part, whole with
  | some part, some whole => pure (some (100 * (part / whole)))
  | _, _ => pure none

/-- The number that is compared with a number. -/
def measured (c : Comparison) : Except EvaluationError (Option Float) :=
  match c.source with
  | .metric name => c.number current name
  | .rate of => c.rate current previous of
  | .percentage part whole => c.percentage current part whole
  | .previous of =>
    match previous with
    | none => .ok none
    | some before => c.number before of

/-- The text that is compared with a text. -/
def worded (c : Comparison) : Except EvaluationError (Option String) :=
  match c.source with
  | .metric name =>
    match current.metric? name with
    | none => .ok none
    | some value =>
      match value.text? with
      | some s => .ok (some s)
      | none => .error (.operand name .text c)
  | _ => .error (.source c)

/-- What a comparator asks of two numbers; the pattern comparators ask nothing of them. -/
def numberTest? : Comparator → Option (Float → Float → Bool)
  | .greater => some fun l r => decide (l > r)
  | .greaterOrEqual => some fun l r => decide (l ≥ r)
  | .less => some fun l r => decide (l < r)
  | .lessOrEqual => some fun l r => decide (l ≤ r)
  | .equal => some fun l r => l == r
  | .notEqual => some fun l r => l != r
  | .matching | .notMatching => none

def compareNumbers (c : Comparison) (left : Option Float) (right : Float) :
    Except EvaluationError Bool :=
  match numberTest? c.comparator with
  | some test => .ok (left.any fun l => test l right)
  | none => .error (.comparator .number c)

def compareTexts (c : Comparison) (left : Option String) (right : String) :
    Except EvaluationError Bool :=
  match c.comparator with
  | .equal => .ok (left.any (· = right))
  | .notEqual => .ok (left.any (· ≠ right))
  | .matching =>
    match PatternLanguage.compile right with
    | .ok test => .ok (left.any test)
    | .error reason => .error (.pattern right reason)
  | .notMatching =>
    match PatternLanguage.compile right with
    | .ok test => .ok (left.any fun s => !test s)
    | .error reason => .error (.pattern right reason)
  | _ => .error (.comparator .text c)

def evaluate (c : Comparison) : Except EvaluationError Bool :=
  match c.literal with
  | .number right =>
    match c.measured current previous with
    | .ok left => c.compareNumbers left right
    | .error e => .error e
  | .text right =>
    match c.worded current with
    | .ok left => c.compareTexts left right
    | .error e => .error e

end Comparison

/-- The value of a junction without parts; a part with the other value decides. -/
def Junction.neutral : Junction → Bool
  | .all => true
  | .any => false

namespace Expression

variable [PatternLanguage]

mutual

def evaluate (current : Sample) (previous : Option Sample) :
    Expression → Except EvaluationError Bool
  | .comparison c => c.evaluate current previous
  | .junction j parts =>
    match evaluateParts current previous j parts with
    | .ok value => .ok value
    | .error cause => .error (.part j parts cause)

def evaluateParts (current : Sample) (previous : Option Sample) (j : Junction) :
    List Expression → Except EvaluationError Bool
  | [] => .ok j.neutral
  | part :: rest =>
    match part.evaluate current previous with
    | .ok value => if value = j.neutral then evaluateParts current previous j rest else .ok value
    | .error cause => .error cause

end

end Expression

end AlertEngine
