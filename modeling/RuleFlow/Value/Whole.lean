import RuleFlow.Fault
import RuleFlow.Number.Whole

/-!
# Whole parts and sums of numbers

* `RuleFlow.Value.wholeOfText` reads a whole number, up to a number of digits.
* `RuleFlow.Value.toWhole` is the whole number that a value denotes: fractions are cut off and
  texts are read.
* `RuleFlow.Value.plus` adds two numbers of any kinds that have a common one.
-/

namespace RuleFlow

open Number

namespace Value

/-- **The whole number that a text writes**, unless it has too many digits. -/
def wholeOfText (s : String) : Except Fault Int :=
  if mostDigits < numeralDigits s then .error (.numeralTooLong (numeralDigits s))
  else
    match readWhole? s with
    | some n => .ok n
    | none => .error (.notWhole s)

/-- **Whether the whole part of a decimal takes more memory than there is.** Each of its digits but
the first takes more than three bits. -/
def outgrowsMemory (coefficient : Nat) (exponent : Int) : Bool :=
  coefficient != 0 && decide (8 * (addressSpace : Int) ≤ 3 * Decimal.adjusted coefficient exponent)

/-- **The whole number that a value denotes.** -/
def toWhole : Value → Except Fault Int
  | .bool b => .ok (if b then 1 else 0)
  | .int n => .ok n
  | .float (.finite x) => .ok x.truncate
  | .float (.infinite _) => .error .infiniteDouble
  | .float (.nan _) => .error .nanDouble
  | .decimal (.finite negative c e) =>
    if outgrowsMemory c e then .error .outOfMemory else .ok (Decimal.truncate negative c e)
  | .decimal (.infinite _) => .error .infiniteDecimal
  | .decimal (.nan ..) => .error .nanDecimal
  | .text s => wholeOfText s
  | v => .error (.noWholeOf v.className)

/-- The double nearest to a whole number; none is infinite. -/
def wholeDouble (n : Int) : Except Fault Binary64 :=
  match Binary64.ofInt n with
  | .infinite _ => .error .beyondDouble
  | x => .ok x

/-- **The sum of two numbers.** A whole number joins the kind of the other number; a decimal and a
double have no sum. -/
def plus : Value → Value → Except Fault Value
  | .int m, .int n => .ok (.int (m + n))
  | .int m, .float y => (wholeDouble m).map fun x => .float (x.add y)
  | .float x, .int n => (wholeDouble n).map fun y => .float (x.add y)
  | .float x, .float y => .ok (.float (x.add y))
  | .decimal d, .decimal e => sum d e
  | .decimal d, .int n => sum d (.ofInt n)
  | .int m, .decimal e => sum (.ofInt m) e
  | .decimal _, .float _ => .error (.mixedSum "decimal.Decimal" "float")
  | .float _, .decimal _ => .error (.mixedSum "float" "decimal.Decimal")
  | v, w => .error (.mixedSum v.className w.className)
where
  sum (d e : Decimal) : Except Fault Value :=
    match Decimal.standard.add d e with
    | .ok d => .ok (.decimal d)
    | .error s => .error (.arithmetic s)

end Value

end RuleFlow
