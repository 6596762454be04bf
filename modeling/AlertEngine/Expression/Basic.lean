import AlertEngine.Decimal.Shortest
import AlertEngine.Text.Quoted

/-! # Expressions

A condition on samples: comparisons of something measured with a literal, joined by `AND` and
`OR`. The literal decides whether numbers or texts are compared.
-/

namespace AlertEngine

/-- What is compared. -/
inductive Source where
  /-- A metric of the current sample. -/
  | metric (name : String)
  /-- The change of a metric since the previous sample, per second. -/
  | rate (of : String)
  /-- One metric of the current sample as a percentage of another. -/
  | percentage (part whole : String)
  /-- A metric of the previous sample. -/
  | previous (of : String)
  deriving Repr, DecidableEq

inductive Comparator where
  | greater
  | greaterOrEqual
  | less
  | lessOrEqual
  | equal
  | notEqual
  | matching
  | notMatching
  deriving Repr, DecidableEq

inductive Literal where
  | number (value : Float)
  | text (value : String)
  deriving DecidableEq

structure Comparison where
  source : Source
  comparator : Comparator
  literal : Literal
  deriving DecidableEq

inductive Junction where
  | all
  | any
  deriving Repr, DecidableEq

inductive Expression where
  | comparison (comparison : Comparison)
  | junction (junction : Junction) (parts : List Expression)

def Source.display : Source → String
  | .metric name => name
  | .rate of => "rate(" ++ of ++ ")"
  | .percentage part whole => "percentage(" ++ part ++ ", " ++ whole ++ ")"
  | .previous of => "previous(" ++ of ++ ")"

def Comparator.symbol : Comparator → String
  | .greater => ">"
  | .greaterOrEqual => ">="
  | .less => "<"
  | .lessOrEqual => "<="
  | .equal => "=="
  | .notEqual => "!="
  | .matching => "=~"
  | .notMatching => "!~"

def Comparator.all : List Comparator :=
  [.greater, .greaterOrEqual, .less, .lessOrEqual, .equal, .notEqual, .matching, .notMatching]

def Comparator.ofSymbol? (symbol : String) : Option Comparator :=
  all.find? (·.symbol = symbol)

theorem Comparator.ofSymbol?_symbol (c : Comparator) : ofSymbol? c.symbol = some c := by
  cases c <;> decide

def Literal.display : Literal → String
  | .number value => Decimal.plainText value
  | .text value => Text.quoted value

def Comparison.display (c : Comparison) : String :=
  c.source.display ++ " " ++ c.comparator.symbol ++ " " ++ c.literal.display

def Junction.name : Junction → String
  | .all => "AND"
  | .any => "OR"

namespace Expression

mutual

def display : Expression → String
  | .comparison c => c.display
  | .junction j parts =>
    "(" ++ (" " ++ j.name ++ " ").intercalate (displayParts parts) ++ ")"

def displayParts : List Expression → List String
  | [] => []
  | part :: rest => part.display :: displayParts rest

end

def all (parts : List Expression) : Expression := .junction .all parts

def any (parts : List Expression) : Expression := .junction .any parts

end Expression

end AlertEngine
