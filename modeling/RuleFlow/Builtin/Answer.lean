import RuleFlow.Outcome
import RuleFlow.Value.Coerce

/-!
# Answers of functions

A function checks its arguments in their order and answers a failure for the first one of the wrong
kind. A fault beyond that is not the function's own business.

* `RuleFlow.Answer` is what a function answers.
* `RuleFlow.Answer.withText` and its companions go on with an argument of one kind.
-/

namespace RuleFlow

open Number Calendar

/-- **What a function answers**: an outcome of its own, or a fault that it ran into. -/
abbrev Answer := Except Fault Outcome

namespace Answer

/-- The answer that is a value. -/
def value (v : Value) : Answer :=
  .ok (.success v)

/-- The answer that is a text. -/
def text (cs : List Char) : Answer :=
  value (.text (String.ofList cs))

/-- The answer that is a truth value. -/
def bool (b : Bool) : Answer :=
  value (.bool b)

/-- The answer that is a whole number. -/
def whole (n : Int) : Answer :=
  value (.decimal (.ofInt n))

/-- The answer that is a result of decimal arithmetic. -/
def decimal (d : Except Decimal.Signal Decimal) : Answer :=
  match d with
  | .ok d => value (.decimal d)
  | .error s => .error (.arithmetic s)

/-- **Refusal** of an argument. -/
def refuse (message : String) : Answer :=
  .ok (.failure FailureCode.functionError message)

/-- The refusal of an argument of the wrong kind. -/
def wrongKind (parameter kind : String) : Answer :=
  refuse s!"{parameter} must be of type {kind}"

/-- Going on with an argument that is a text. -/
def withText (parameter : String) (v : Value) (next : List Char → Answer) : Answer :=
  match v with
  | .text s => next s.toList
  | _ => wrongKind parameter "String"

/-- Going on with an argument that is a number. -/
def withNumber (parameter : String) (v : Value) (next : Answer) : Answer :=
  if v.isNumber then next else wrongKind parameter "Number"

/-- Going on with an argument that is a truth value. -/
def withBool (parameter : String) (v : Value) (next : Bool → Answer) : Answer :=
  match v with
  | .bool b => next b
  | _ => wrongKind parameter "Boolean"

/-- Going on with an argument that is a date or moment, or spells one. -/
def withDate (parameter : String) (v : Value) (next : Temporal → Answer) : Answer :=
  match v.temporal? with
  | some t => next t
  | none => wrongKind parameter "Date"

end Answer

end RuleFlow
