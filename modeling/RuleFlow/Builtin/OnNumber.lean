import RuleFlow.Builtin.Answer
import RuleFlow.Number.Decimal.Power
import RuleFlow.Value.Whole

/-!
# Functions on numbers

Numbers of every kind become decimals first; results are rounded in the standard context.

* `RuleFlow.OnNumber.add` and its companions are the operations on two numbers.
* `RuleFlow.OnNumber.round`, `floor` and `ceil` give whole numbers, `toFixed` a text.
-/

namespace RuleFlow.OnNumber

open Number Answer

/-- An operation on two numbers, the arguments checked before either is converted. -/
def binary (firstName secondName : String)
    (operation : Decimal → Decimal → Except Decimal.Signal Decimal) (a b : Value) : Answer :=
  withNumber firstName a <|
  withNumber secondName b do
    let x ← a.toNumber
    let y ← b.toNumber
    Answer.decimal (operation x y)

/-- An operation on one number. -/
def unary (operation : Decimal → Except Decimal.Signal Decimal) (num : Value) : Answer :=
  withNumber "num" num do
    let x ← num.toNumber
    Answer.decimal (operation x)

/-! ### Arithmetic -/

/-- **The sum.** -/
def add : Value → Value → Answer :=
  binary "a" "b" Decimal.standard.add

/-- **The difference.** -/
def subtract : Value → Value → Answer :=
  binary "a" "b" fun x y => Decimal.standard.add x y.negate

/-- **The product.** -/
def multiply : Value → Value → Answer :=
  binary "a" "b" Decimal.standard.mul

/-- An operation on two numbers whose second is not zero. -/
def nonzero (refusal : String) (operation : Decimal → Decimal → Except Decimal.Signal Decimal)
    (a b : Value) : Answer :=
  withNumber "a" a <|
  withNumber "b" b do
    if ← b.same (.int 0) then refuse refusal else binary "a" "b" operation a b

/-- **The quotient.** -/
def divide : Value → Value → Answer :=
  nonzero "Division by zero" Decimal.standard.div

/-- **The remainder**, with the sign of the dividend. -/
def modulo : Value → Value → Answer :=
  nonzero "Modulo by zero" Decimal.standard.rem

/-- **The power.** -/
def power : Value → Value → Answer :=
  binary "base" "exponent" Decimal.standard.pow

/-- **The square root** of a number that is not negative. -/
def sqrt (num : Value) : Answer :=
  withNumber "num" num do
    if ← num.less (.int 0) then refuse "Cannot calculate square root of negative number"
    else unary Decimal.standard.sqrt num

/-- **The magnitude.** -/
def abs : Value → Answer :=
  unary Decimal.standard.abs

/-! ### Whole numbers -/

/-- One half. -/
def half : Decimal :=
  .finite false 5 (-1)

/-- **Rounding to a whole number**: half is added, then what is beyond the point is cut off
downward. -/
def round : Value → Answer :=
  unary fun x => (Decimal.standard.add x half).map (Decimal.roundToWhole .floor)

/-- **The greatest whole number below.** -/
def floor : Value → Answer :=
  unary fun x => .ok (Decimal.roundToWhole .floor x)

/-- **The least whole number above.** -/
def ceil : Value → Answer :=
  unary fun x => .ok (Decimal.roundToWhole .ceiling x)

/-! ### Choice and text -/

/-- **The larger number**; of equal ones the first. -/
def max : Value → Value → Answer :=
  binary "a" "b" fun x y => .ok (if Decimal.compare? y x = some .gt then y else x)

/-- **The smaller number**; of equal ones the first. -/
def min : Value → Value → Answer :=
  binary "a" "b" fun x y => .ok (if Decimal.compare? y x = some .lt then y else x)

/-- **The text with a fixed number of places**, a tie rounded away from zero. -/
def toFixed (num decimals : Value) : Answer :=
  withNumber "num" num <|
  withNumber "decimals" decimals do
    let places ← decimals.toWhole
    if places < 0 ∨ 100 < places then .error .placesRange
    else
      let x ← num.toNumber
      match Decimal.standard.quantize x (-places) with
      | .ok d => Answer.value (.text d.toFixedText)
      | .error s => .error (.arithmetic s)

end RuleFlow.OnNumber
