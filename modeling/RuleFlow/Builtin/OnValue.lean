import RuleFlow.Builtin.Answer
import RuleFlow.Text.Search

/-!
# Functions on values of any kind

Questions about presence and kind, conversions, comparisons, and the logic of truth values.
-/

namespace RuleFlow.OnValue

open Number Answer

/-! ### Presence and kind -/

/-- Whether a value is nothing or the empty text. -/
def isEmpty (v : Value) : Answer :=
  Answer.bool v.isAbsent

/-- Whether a value is nothing. -/
def isNull (v : Value) : Answer :=
  Answer.bool v.isNull

/-- Whether a value is a number. -/
def isNumber (v : Value) : Answer :=
  Answer.bool v.isNumber

/-- Whether a value is a text. -/
def isString (v : Value) : Answer :=
  Answer.bool v.isText

/-- Whether a value is a truth value. -/
def isBoolean (v : Value) : Answer :=
  Answer.bool (v matches .bool _)

/-- **A value, or another one in place of nothing.** -/
def default (v other : Value) : Answer :=
  Answer.value (if v.isAbsent then other else v)

/-! ### Conversions -/

/-- **The text of a value.** -/
def toText (v : Value) : Answer :=
  Answer.value (.text v.stringify)

/-- Whether a value is a text without a character that is no white space. -/
def isBlankText : Value → Bool
  | .text s => (Text.trim s).isEmpty
  | _ => false

/-- **The number of a value**: truth values are one and zero, nothing and blank texts are zero. -/
def toNumber (v : Value) : Answer :=
  match v with
  | .bool b => Answer.whole (if b then 1 else 0)
  | .null => Answer.whole 0
  | v =>
    if isBlankText v then Answer.whole 0
    else
      match v.toNumber with
      | .ok d => Answer.value (.decimal d)
      | .error _ => refuse "Cannot convert to number"

/-- **The truth of a value.** -/
def toBoolean (v : Value) : Answer :=
  Answer.bool v.truthy

/-! ### Comparisons -/

/-- Equality of values of one kind. -/
def sameKindAndValue (v w : Value) : Except Fault Bool :=
  if v.typeName = w.typeName then v.same w else .ok false

/-- **Strict equality**: values of different kinds are never equal. -/
def equals (v w : Value) : Answer := do
  Answer.bool (← sameKindAndValue v w)

/-- The opposite of strict equality. -/
def notEquals (v w : Value) : Answer := do
  Answer.bool (!(← sameKindAndValue v w))

/-- The comparison of two numbers by their order. -/
def ordered (holds : Ordering → Bool) (v w : Value) : Answer :=
  withNumber "value1" v <|
  withNumber "value2" w do
    let x ← v.toNumber
    let y ← w.toNumber
    Answer.bool ((Decimal.compare? x y).any holds)

/-- **Whether the first number is greater.** -/
def greaterThan : Value → Value → Answer :=
  ordered (· == .gt)

/-- **Whether the first number is less.** -/
def lessThan : Value → Value → Answer :=
  ordered (· == .lt)

/-! ### Logic -/

/-- **Conjunction.** -/
def and (v w : Value) : Answer :=
  withBool "value1" v fun a => withBool "value2" w fun b => Answer.bool (a && b)

/-- **Disjunction.** -/
def or (v w : Value) : Answer :=
  withBool "value1" v fun a => withBool "value2" w fun b => Answer.bool (a || b)

/-- **Negation.** -/
def not (v : Value) : Answer :=
  withBool "value" v fun a => Answer.bool (!a)

end RuleFlow.OnValue
