import RuleFlow.DataType
import RuleFlow.Text.Search
import RuleFlow.Value.Whole

/-!
# Outcomes

What a call of a function and a run of a rule end with: a value, or a failure with a code and a
message.

* `RuleFlow.Outcome` is the type.
* `RuleFlow.Outcome.toValue` is the record of an outcome, and `RuleFlow.Outcome.ofValue` reads one.
* `RuleFlow.Value.toPlain` is a value as it goes into a JSON document.
-/

namespace RuleFlow

open Number

/-- **Outcomes.** -/
inductive Outcome where
  /-- The computation went through. -/
  | success (v : Value)
  /-- The computation was given up. -/
  | failure (code : Int) (message : String)
deriving Repr, Inhabited

namespace Outcome

/-- Whether an outcome is a success. -/
def isSuccess : Outcome → Bool
  | .success _ => true
  | .failure .. => false

/-- **The record of an outcome.** -/
def toValue : Outcome → Value
  | .success v => .record [("success", .bool true), ("value", v)]
  | .failure code message =>
    .record [("success", .bool false),
      ("error", .record [("code", .int code), ("message", .text message)])]

/-- The failure that an error record describes; `whole` is the record around it. What is no record
is searched for the word that stands for the code, and refused either way. -/
def failureOf (whole error : Value) : Except Fault Outcome :=
  match error with
  | .record fields =>
    match Keyed.find? fields "code" with
    | none => .error (.noFailureCode whole)
    | some code => do
      let code ← code.toWhole
      return .failure code ((Keyed.find? fields "message").getD (.text "")).display
  | .text s =>
    if Text.occursIn "code".toList s.toList then
      .error (.misused "string indices must be integers, not 'str'")
    else .error (.noFailureCode whole)
  | .list items =>
    if items.any fun item => item matches .text "code" then
      .error (.misused "list indices must be integers or slices, not str")
    else .error (.noFailureCode whole)
  | v => .error (.misused s!"argument of type '{v.className}' is not iterable")

/-- **Reading the record of an outcome.** -/
def ofValue (v : Value) : Except Fault Outcome :=
  match v.field? "success" with
  | none => .error (.notAResult v)
  | some flag =>
    if flag.truthy then .ok (.success (v.field "value"))
    else failureOf v ((v.field "error").orElse (.record []))

end Outcome

/-! ### Values in documents -/

/-- A decimal as it goes into a document: a whole one as a whole number, any other as a double. -/
def Value.plainDecimal (d : Decimal) : Except Fault Value :=
  match d with
  | .finite .. => do
    let whole ← (Value.decimal d).toWhole
    if Decimal.compare? d (.ofInt whole) = some .eq then return .int whole
    else return .float (.ofDecimal d)
  | .infinite _ => .error .infiniteDecimal
  | .nan _ signaling _ =>
    if signaling then .error (.arithmetic .invalidOperation) else .ok (.float (.nan .fresh))

mutual

/-- **A value as it goes into a document**: numbers without decimals, and dates as texts. -/
def Value.toPlain : Value → Except Fault Value
  | .decimal d => plainDecimal d
  | .temporal t => .ok (.text t.isoText)
  | .list items => (plainItems items).map .list
  | .record fields => (plainFields fields).map .record
  | v => .ok v

/-- The items of a list as they go into a document. -/
def Value.plainItems : List Value → Except Fault (List Value)
  | [] => .ok []
  | v :: rest =>
    match v.toPlain with
    | .error f => .error f
    | .ok v => (plainItems rest).map (v :: ·)

/-- The fields of a record as they go into a document. -/
def Value.plainFields : List (String × Value) → Except Fault (List (String × Value))
  | [] => .ok []
  | (key, v) :: rest =>
    match v.toPlain with
    | .error f => .error f
    | .ok v => (plainFields rest).map ((key, v) :: ·)

end

end RuleFlow
