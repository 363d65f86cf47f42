import RuleFlow.Rule.Basic
import RuleFlow.Value.Compare

/-!
# Seeding

Before anything runs, the values that the caller gives are converted to the declared types, and
what is left out is filled in. Only declared names are looked at.

* `RuleFlow.Seed` is a declared input as far as seeding needs it.
* `RuleFlow.Seed.context` gives every declared input its value, or refuses the first one that is
  missing or of the wrong type.
-/

namespace RuleFlow

/-- **What seeding needs of a declared input.** -/
structure Seed where
  /-- The name. -/
  name : String
  /-- The declared type. -/
  type : DeclaredType
  /-- Whether the input has to be given. -/
  mandatory : Bool
  /-- The value of an input that is left out, if not nothing. -/
  default : Value
deriving Repr

/-- What seeding needs of a declaration. -/
def InputDecl.seed (d : InputDecl) : Seed :=
  { name := d.name, type := .known d.type, mandatory := d.mandatory, default := d.default }

namespace Seed

/-- The given value of a name, or nothing. Only a record gives values. -/
def given (inputs : Value) (name : String) : Except Trouble Value :=
  match inputs with
  | .record fields => .ok ((Keyed.find? fields name).getD .null)
  | v => .error (.fault (.noAttribute s!"'{v.className}' object has no attribute 'get'"))

/-- The value that stands for an input that is left out, before its conversion. -/
def fallback (s : Seed) : Value :=
  if s.default.isNull then s.type.empty else s.default

/-- **The value of one input.** -/
def value (s : Seed) (given : Value) : Except Trouble Value :=
  if given.isAbsent && s.mandatory then
    .error (.refused FailureCode.missingInput s!"{s.name} is required")
  else
    match s.type.coerce (if given.isAbsent then s.fallback else given) with
    | .ok v => .ok v
    | .error f =>
      if f.isValueFault then
        .error (.refused FailureCode.invalidValue s!"{s.name} must be of type {s.type.name}")
      else .error (.fault f)

/-- **The values of all inputs** in the order of their declarations. -/
def context (seeds : List Seed) (inputs : Value) : Except Trouble (Keyed Value) :=
  seeds.foldlM (fun values s => do
    let v ← s.value (← given inputs s.name)
    return values.set s.name v) []

end Seed

end RuleFlow
