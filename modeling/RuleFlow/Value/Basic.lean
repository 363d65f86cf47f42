import RuleFlow.Calendar.Moment
import RuleFlow.Keyed
import RuleFlow.Number.Binary64.Text

/-!
# Values

The values that rules compute with, and of which rule documents consist.

* `RuleFlow.Value` is the type. Whole numbers, doubles and decimals are different kinds of
  number; dates and moments are temporal values; a record is a keyed list.
* `RuleFlow.Value.typeName` names the kind of a value as conditions and messages know it, and
  `RuleFlow.Value.className` as refused documents know it.
* `RuleFlow.Value.truthy` tells the empty, zero and false values from all others.

## What values leave out

The values are those that documents describe and that functions compute. A row of items is a list,
of whatever kind the row was that a caller handed over. A moment has a fixed offset or none, so
there are no zones whose offset changes with the season. A text consists of characters, without the
halves of characters that stand alone. Values are trees: which of them are one object is known of
doubles that are not numbers only (`RuleFlow.Number.Nan`), and no value is nested too deeply for a
function to walk through it. A whole number has a text whatever its length; where a text of too many
digits is refused, the function that would write or read it says so (`RuleFlow.Number.mostDigits`).
-/

namespace RuleFlow

open Number Calendar

/-- **Values.** -/
inductive Value where
  /-- Nothing. -/
  | null
  /-- A truth value. -/
  | bool (b : Bool)
  /-- A whole number. -/
  | int (n : Int)
  /-- A double. -/
  | float (x : Binary64)
  /-- A decimal. -/
  | decimal (d : Decimal)
  /-- A text. -/
  | text (s : String)
  /-- A date or a moment. -/
  | temporal (t : Temporal)
  /-- A list. -/
  | list (items : List Value)
  /-- A record. -/
  | record (fields : List (String × Value))
deriving Repr, Inhabited

namespace Value

/-! ### Kinds -/

/-- Whether a value is a number. Truth values are none. -/
def isNumber : Value → Bool
  | .int _ | .float _ | .decimal _ => true
  | _ => false

/-- Whether a value is a date or a moment. -/
def isTemporal : Value → Bool
  | .temporal _ => true
  | _ => false

/-- Whether a value is a text. -/
def isText : Value → Bool
  | .text _ => true
  | _ => false

/-- Whether a value is nothing. -/
def isNull : Value → Bool
  | .null => true
  | _ => false

/-- **Absence**: nothing, or the empty text. -/
def isAbsent : Value → Bool
  | .null => true
  | .text s => s.isEmpty
  | _ => false

/-- The word for the kind of a value in documents that are refused. -/
def className : Value → String
  | .null => "NoneType"
  | .bool _ => "bool"
  | .int _ => "int"
  | .float _ => "float"
  | .decimal _ => "Decimal"
  | .text _ => "str"
  | .temporal (.day _) => "date"
  | .temporal (.moment _) => "datetime"
  | .list _ => "list"
  | .record _ => "dict"

/-- **The name of the kind of a value** in conditions and messages. Records have none of their
own. -/
def typeName : Value → String
  | .null => "Null"
  | .bool _ => "Boolean"
  | .int _ | .float _ | .decimal _ => "Number"
  | .text _ => "String"
  | .temporal _ => "Date"
  | .list _ => "Array"
  | .record fields => (Value.record fields).className

/-- **Truth of any value**: nothing, zeros, and what is empty count as false. -/
def truthy : Value → Bool
  | .null => false
  | .bool b => b
  | .int n => n != 0
  | .float x => !x.isZero
  | .decimal d => !d.isZero
  | .text s => !s.isEmpty
  | .temporal _ => true
  | .list items => !items.isEmpty
  | .record fields => !fields.isEmpty

/-! ### Fields -/

/-- The value of a field, or nothing. -/
def field (v : Value) (key : String) : Value :=
  match v with
  | .record fields => (Keyed.find? fields key).getD .null
  | _ => .null

/-- The value of a field, if the value is a record that has it. -/
def field? (v : Value) (key : String) : Option Value :=
  match v with
  | .record fields => Keyed.find? fields key
  | _ => none

/-- The first of two values that counts as true, else the second. -/
def orElse (v w : Value) : Value :=
  if v.truthy then v else w

/-- A text that may be missing. -/
def ofText? : Option String → Value
  | some s => .text s
  | none => .null

end Value

end RuleFlow
