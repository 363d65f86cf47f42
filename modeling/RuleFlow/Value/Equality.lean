import RuleFlow.Fault

/-!
# Equality and order of values

Numbers of all kinds are compared by their exact values; a truth value counts as zero or one among
numbers. Values of different kinds are different. A decimal that signals refuses even equality.

A double that is not a number is not equal to itself. Inside lists and records it is, though: an
item or field is taken for the same one where it is the same object. Equality of such an object with
itself, where it is asked directly, stays false.

* `RuleFlow.Value.same` is equality, and `RuleFlow.Value.sameItem` that of items and fields.
* `RuleFlow.Value.less` is the order of numbers.
-/

namespace RuleFlow

open Number Calendar

namespace Value

/-! ### Numbers -/

/-- The exact decimal value of a number or truth value. -/
def number? : Value → Option Decimal
  | .bool b => some (.ofNat (if b then 1 else 0))
  | .int n => some (.ofInt n)
  | .float x => some x.toDecimal
  | .decimal d => some d
  | _ => none

/-- Equality of exact values. -/
def sameNumber (d e : Decimal) : Except Fault Bool :=
  if d.isSignaling || e.isSignaling then .error (.arithmetic .invalidOperation)
  else .ok (Decimal.compare? d e == some .eq)

/-- Whether a value is a decimal. -/
def isDecimal : Value → Bool
  | .decimal _ => true
  | _ => false

/-- **The order of numbers.** What is not a number is less than nothing, and a decimal refuses to
be compared with it. -/
def less (v w : Value) : Except Fault Bool :=
  match v.number?, w.number? with
  | some d, some e =>
    match Decimal.compare? d e with
    | some o => .ok (o == .lt)
    | none =>
      if v.isDecimal || w.isDecimal then .error (.arithmetic .invalidOperation) else .ok false
  | _, _ => .error (.unordered v.className w.className)

/-! ### Equality -/

/-- Whether two values are known to be one double that is not a number. What is equal to itself
needs no such question. Of decimals that are not numbers, which no document and no function makes,
it is not known which object they are. -/
def identical : Value → Value → Bool
  | .float x, .float y => x.sameNan y
  | _, _ => false

/-- What comes of two items or fields: they are the same if they are one object, and otherwise as
their equality says. -/
def orIdentical (v w : Value) (equal : Except Fault Bool) : Except Fault Bool :=
  if identical v w then .ok true else equal

mutual

/-- **Equality of values.** -/
def same : Value → Value → Except Fault Bool
  | .null, w => .ok w.isNull
  | .text s, .text t => .ok (s == t)
  | .text _, _ => .ok false
  | .temporal t, .temporal u => .ok (t.same u)
  | .temporal _, _ => .ok false
  | .list xs, .list ys => if xs.length = ys.length then sameItems xs ys else .ok false
  | .list _, _ => .ok false
  | .record fs, .record gs => if fs.length = gs.length then sameFields fs gs else .ok false
  | .record _, _ => .ok false
  | .bool b, w => w.number?.elim (.ok false) (sameNumber (.ofNat (if b then 1 else 0)))
  | .int n, w => w.number?.elim (.ok false) (sameNumber (.ofInt n))
  | .float x, w => w.number?.elim (.ok false) (sameNumber x.toDecimal)
  | .decimal d, w => w.number?.elim (.ok false) (sameNumber d)

/-- Equality of lists of one length, item by item. -/
def sameItems : List Value → List Value → Except Fault Bool
  | v :: vs, w :: ws =>
    match orIdentical v w (same v w) with
    | .ok true => sameItems vs ws
    | other => other
  | _, _ => .ok true

/-- Equality of records of one size: every field of the first is in the second, wherever it
stands. -/
def sameFields : List (String × Value) → List (String × Value) → Except Fault Bool
  | [], _ => .ok true
  | (k, v) :: rest, gs =>
    match Keyed.find? gs k with
    | none => .ok false
    | some w =>
      match orIdentical v w (same v w) with
      | .ok true => sameFields rest gs
      | other => other

end

/-- **Equality of two items of lists, or of two fields.** -/
def sameItem (v w : Value) : Except Fault Bool :=
  orIdentical v w (same v w)

end Value

end RuleFlow
