import RuleFlow.Text.Search
import RuleFlow.Value.Coerce

/-!
# Conditions on values

A condition compares two values under the types that are declared for its sides.

* `RuleFlow.Trouble` is what stops a run of a rule.
* `RuleFlow.Value.compare` evaluates one comparison: both sides are converted to the declared
  type, and two numbers of no declared type are compared as decimals.
* `RuleFlow.Combinator.join` folds one more condition into the conditions before it.
-/

namespace RuleFlow

open Number Calendar

/-- **What stops a run of a rule.** -/
inductive Trouble where
  /-- A value that the rule cannot go on with, reported to the caller with a code. -/
  | refused (code : Int) (message : String)
  /-- A state that a checked rule does not reach. -/
  | internal (message : String)
  /-- More steps than the bound allows. -/
  | stepLimit (message : String)
  /-- A fault of a computation that no step catches. -/
  | fault (f : Fault)
deriving Repr, Inhabited

namespace Value

/-! ### The parts of a comparison -/

/-- The type by which two values of no declared type are compared. -/
def inferType (left right : Value) : DataType :=
  if left.isNumber && right.isNumber then .number
  else if left.isTemporal && right.isTemporal then .date
  else if left.isText && right.isText then .string
  else .any

/-- Temporal values aligned with each other; other values are left as they are. -/
def align (left right : Value) : Value × Value :=
  match left, right with
  | .temporal t, .temporal u =>
    let (t, u) := t.align u
    (.temporal t, .temporal u)
  | _, _ => (left, right)

/-- The order of two converted values, where they have one. -/
def order? (left right : Value) : Option Ordering :=
  match left, right with
  | .decimal d, .decimal e => Decimal.compare? d e
  | .temporal t, .temporal u => t.compare? u
  | _, _ => none

/-- Whether an order satisfies an operator. -/
def orderHolds (op : Operator) (o : Ordering) : Bool :=
  match op with
  | .lt => o == .lt
  | .lte => o != .gt
  | .gt => o == .gt
  | .gte => o != .lt
  | _ => false

/-- Whether a text stands to another as an operator says. -/
def textHolds (op : Operator) (left right : List Char) : Bool :=
  match op with
  | .contains => Text.occursIn right left
  | .notContains => !Text.occursIn right left
  | .startsWith => right.isPrefixOf left
  | .endsWith => right.isSuffixOf left
  | _ => false

/-- Both sides converted to a type. -/
def coerceBoth (target : DeclaredType) (left right : Value) : Except Fault (Value × Value) := do
  let left ← target.coerce left
  let right ← target.coerce right
  return (left, right)

/-- The type by which a comparison goes: the left one, or the right one if the left is `any`. -/
def targetType (leftType rightType : DeclaredType) : DeclaredType :=
  if leftType = .known .any then rightType else leftType

/-! ### Comparisons -/

/-- A comparison of converted values. -/
def compareConverted (mismatch : Trouble) (op : Operator) (target : DeclaredType)
    (left right : Value) : Except Trouble Bool :=
  match op with
  | .eq | .neq =>
    let (l, r) := if target = .known .date then align left right else (left, right)
    match same l r with
    | .ok equal => .ok (equal == (op == .eq))
    | .error f => .error (.fault f)
  | .lt | .lte | .gt | .gte =>
    if (target = .known .number ∨ target = .known .date) ∧ !left.isNull ∧ !right.isNull then
      let (l, r) := align left right
      match order? l r with
      | some o => .ok (orderHolds op o)
      | none => .error mismatch
    else .error mismatch
  | .contains | .notContains | .startsWith | .endsWith =>
    match left, right with
    | .text s, .text t => .ok (textHolds op s.toList t.toList)
    | _, _ => .error mismatch

/-- A comparison by an operator that may be unknown, whose name stands in messages. -/
def compareBy (opName : String) (op : Option Operator) (left : Value) (leftType : DeclaredType)
    (right : Value) (rightType : DeclaredType) : Except Trouble Bool := do
  let mismatch : Trouble :=
    .refused FailureCode.typeMismatch
      s!"Cannot apply {opName} to {left.typeName} and {right.typeName}"
  let target := targetType leftType rightType
  let (left, right) ←
    match coerceBoth target left right with
    | .ok both => .ok both
    | .error f => if f.isValueFault then .error mismatch else .error (.fault f)
  let (target, left, right) ←
    if target = .known .any then
      let inferred := inferType left right
      if inferred = .number then
        match coerceBoth (.known .number) left right with
        | .ok (l, r) => .ok (DeclaredType.known .number, l, r)
        | .error f => .error (.fault f)
      else .ok (.known inferred, left, right)
    else .ok (target, left, right)
  match op with
  | some op => compareConverted mismatch op target left right
  | none => .error (.internal s!"Unsupported operator {Text.quote opName}")

/-- **One comparison** under the types declared for its sides. -/
def compare (op : Operator) (left : Value) (leftType : DataType) (right : Value)
    (rightType : DataType) : Except Trouble Bool :=
  compareBy op.name (some op) left (.known leftType) right (.known rightType)

/-- A comparison in which operator and types are given by name. -/
def compareNamed (op : String) (left : Value) (leftType : String) (right : Value)
    (rightType : String) : Except Trouble Bool :=
  compareBy op (Operator.ofName? op) left (.ofName leftType) right (.ofName rightType)

end Value

/-! ### Joining conditions -/

/-- **One more condition** joined to the conditions before it. As soon as the result is decided, the
value that decided it is the result. -/
def Combinator.join (c : Combinator) (before value : Value) : Value :=
  match c with
  | .and => if before.truthy then value else before
  | .or => if before.truthy then before else value

/-- A condition joined by a combinator given by name. -/
def Combinator.joinNamed (before : Value) (name : String) (value : Value) :
    Except Trouble Value :=
  match ofName? name with
  | some c => .ok (c.join before value)
  | none => .error (.internal s!"Unsupported combinator {Text.quote name}")

end RuleFlow
