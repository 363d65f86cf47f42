import RuleFlow.Calendar.Iso
import RuleFlow.DataType
import RuleFlow.Value.Equality

/-!
# Conversion to data types

Values come in as documents hold them and are converted to the data type that a rule declares.

* `RuleFlow.Value.toNumber`, `RuleFlow.Value.toBoolean`, `RuleFlow.Value.toTemporal`: the
  conversions to one type each.
* `RuleFlow.Value.coerce` converts to a declared type.
* `RuleFlow.DataType.empty` is the value of an input of a type that is left out.
-/

namespace RuleFlow

open Number Calendar

namespace Value

/-! ### One type -/

/-- **Conversion to a number**: every number becomes a finite decimal, a double through its
shortest text. -/
def toNumber (v : Value) : Except Fault Decimal :=
  let finite (d : Decimal) : Except Fault Decimal :=
    if d.isFinite then .ok d else .error (.notFinite v)
  match v with
  | .decimal d => finite d
  | .int n => .ok (.ofInt n)
  | .float x => finite x.toShortDecimal
  | .text s =>
    match Decimal.ofText? s with
    | some d => finite d
    | none => .error (.notNumeral v)
  | v => .error (.notNumeric v.typeName)

/-- **Conversion to a truth value**: besides truth values only the two words in lower case. -/
def toBoolean : Value → Except Fault Bool
  | .bool b => .ok b
  | .text "true" => .ok true
  | .text "false" => .ok false
  | v => .error (.notBoolean v)

/-- **Conversion to a date or moment**: ISO texts are read. -/
def toTemporal : Value → Except Fault Temporal
  | .temporal t => .ok t
  | .text s => (Temporal.ofText s).mapError .calendar
  | v => .error (.notDate v.typeName)

/-- The date or moment that a value is or spells, if any. -/
def temporal? (v : Value) : Option Temporal :=
  match v.toTemporal with
  | .ok t => some t
  | .error _ => none

/-! ### Declared types -/

/-- **Conversion to a declared type.** Nothing has every type. -/
def coerce (v : Value) (t : DataType) : Except Fault Value :=
  if v.isNull then .ok v
  else
    match t with
    | .any => .ok v
    | .string => if v.isText then .ok v else .error (.notText v.typeName)
    | .number => v.toNumber.map .decimal
    | .boolean => v.toBoolean.map .bool
    | .date => v.toTemporal.map .temporal

end Value

/-- A type as it is written in a declaration: one of the types, or a name that no type has. -/
inductive DeclaredType where
  /-- One of the types. -/
  | known (t : DataType)
  /-- A name that no type has. -/
  | unknown (name : String)
deriving DecidableEq, Repr

namespace DeclaredType

/-- The declared type of a name. -/
def ofName (s : String) : DeclaredType :=
  match DataType.ofName? s with
  | some t => .known t
  | none => .unknown s

/-- The name of a declared type. -/
def name : DeclaredType → String
  | .known t => t.name
  | .unknown s => s

/-- Conversion to a declared type; nothing but nothing has an unknown one. -/
def coerce (v : Value) : DeclaredType → Except Fault Value
  | .known t => v.coerce t
  | .unknown s => if v.isNull then .ok v else .error (.unknownType s)

end DeclaredType

/-- **The value of an input of a type that is left out.** -/
def DataType.empty : DataType → Value
  | .string => .text ""
  | .number => .decimal .zero
  | .boolean => .bool false
  | .date => .null
  | .any => .null

/-- The value of an input of a declared type that is left out. -/
def DeclaredType.empty : DeclaredType → Value
  | .known t => t.empty
  | .unknown _ => .null

end RuleFlow
