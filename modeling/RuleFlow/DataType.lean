/-!
# Names of the rule language

The closed sets of words that rules are written with, each with its spelling.

* `RuleFlow.DataType`, `RuleFlow.Operator`, `RuleFlow.Combinator`, `RuleFlow.Category`: the words.
* `RuleFlow.Operator.ofSpelling?` accepts every spelling of an operator.
* `RuleFlow.FailureCode`: the codes that failures carry.
-/

namespace RuleFlow

/-! ### Data types -/

/-- **Declared data types.** The type `any` switches static checks off. -/
inductive DataType where
  /-- Texts. -/
  | string
  /-- Numbers. -/
  | number
  /-- Truth values. -/
  | boolean
  /-- Dates and moments. -/
  | date
  /-- Values of any kind. -/
  | any
deriving DecidableEq, Repr, Inhabited

namespace DataType

/-- All data types, in their order. -/
def all : List DataType :=
  [.string, .number, .boolean, .date, .any]

/-- The name of a data type. -/
def name : DataType → String
  | .string => "STRING"
  | .number => "NUMBER"
  | .boolean => "BOOLEAN"
  | .date => "DATE"
  | .any => "ANY"

/-- The data type of a name. -/
def ofName? (s : String) : Option DataType :=
  all.find? fun t => t.name == s

theorem ofName?_name (t : DataType) : ofName? t.name = some t := by
  cases t <;> decide

end DataType

/-! ### Operators -/

/-- **Comparison operators.** -/
inductive Operator where
  /-- Equal. -/
  | eq
  /-- Not equal. -/
  | neq
  /-- Less. -/
  | lt
  /-- Less or equal. -/
  | lte
  /-- Greater. -/
  | gt
  /-- Greater or equal. -/
  | gte
  /-- Contains a text. -/
  | contains
  /-- Does not contain a text. -/
  | notContains
  /-- Starts with a text. -/
  | startsWith
  /-- Ends with a text. -/
  | endsWith
deriving DecidableEq, Repr, Inhabited

namespace Operator

/-- All operators, in their order. -/
def all : List Operator :=
  [.eq, .neq, .lt, .lte, .gt, .gte, .contains, .notContains, .startsWith, .endsWith]

/-- The name of an operator. -/
def name : Operator → String
  | .eq => "EQ"
  | .neq => "NEQ"
  | .lt => "LT"
  | .lte => "LTE"
  | .gt => "GT"
  | .gte => "GTE"
  | .contains => "CONTAINS"
  | .notContains => "NOT_CONTAINS"
  | .startsWith => "STARTS_WITH"
  | .endsWith => "ENDS_WITH"

/-- The operator of a name. -/
def ofName? (s : String) : Option Operator :=
  all.find? fun op => op.name == s

theorem ofName?_name (op : Operator) : ofName? op.name = some op := by
  cases op <;> decide

/-- Whether an operator compares by order. -/
def isOrdering : Operator → Bool
  | .lt | .lte | .gt | .gte => true
  | _ => false

/-- Whether an operator searches a text. -/
def isTextual : Operator → Bool
  | .contains | .notContains | .startsWith | .endsWith => true
  | _ => false

/-- The other spellings of operators. -/
def aliases : List (String × Operator) :=
  [("equals", .eq), ("not_equals", .neq), ("greater_than", .gt), ("less_than", .lt),
    ("greater_than_or_equal", .gte), ("less_than_or_equal", .lte), ("contains", .contains),
    ("not_contains", .notContains), ("starts_with", .startsWith), ("ends_with", .endsWith),
    ("==", .eq), ("!=", .neq), ("<", .lt), ("<=", .lte), (">", .gt), (">=", .gte),
    ("ne", .neq)]

end Operator

/-! ### Combinators and categories -/

/-- **How a condition joins** the conditions before it. -/
inductive Combinator where
  /-- Both hold. -/
  | and
  /-- One of the two holds. -/
  | or
deriving DecidableEq, Repr, Inhabited

namespace Combinator

/-- All combinators, in their order. -/
def all : List Combinator :=
  [.and, .or]

/-- The name of a combinator. -/
def name : Combinator → String
  | .and => "AND"
  | .or => "OR"

/-- The combinator of a name. -/
def ofName? (s : String) : Option Combinator :=
  all.find? fun c => c.name == s

theorem ofName?_name (c : Combinator) : ofName? c.name = some c := by
  cases c <;> decide

end Combinator

/-- **Categories of functions.** -/
inductive Category where
  /-- Functions on texts. -/
  | str
  /-- Functions on numbers. -/
  | num
  /-- Functions on dates. -/
  | date
  /-- Other functions. -/
  | util
deriving DecidableEq, Repr, Inhabited

namespace Category

/-- All categories, in their order. -/
def all : List Category :=
  [.str, .num, .date, .util]

/-- The name of a category. -/
def name : Category → String
  | .str => "STR"
  | .num => "NUM"
  | .date => "DATE"
  | .util => "UTIL"

/-- The category of a name. -/
def ofName? (s : String) : Option Category :=
  all.find? fun c => c.name == s

/-- The title of a category. -/
def title : Category → String
  | .str => "String Functions"
  | .num => "Number Functions"
  | .date => "Date Functions"
  | .util => "Utility Functions"

/-- What the functions of a category are for. -/
def description : Category → String
  | .str => "Functions for string manipulation and operations"
  | .num => "Functions for numeric calculations and operations"
  | .date => "Functions for date manipulation and formatting"
  | .util => "General utility and helper functions"

end Category

/-! ### Failure codes -/

namespace FailureCode

/-- The code for a mandatory input that is missing. -/
def missingInput : Int := 1001

/-- The code for an input of the wrong type. -/
def invalidValue : Int := 1002

/-- The code for operands that cannot be compared. -/
def typeMismatch : Int := 1003

/-- The code for arguments that a function refuses, and for failures that declare no code. -/
def functionError : Int := 400

/-- The code for a function that ran into a fault. -/
def unexpectedError : Int := 500

end FailureCode

end RuleFlow
