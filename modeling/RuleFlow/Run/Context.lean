import RuleFlow.Rule.Error
import RuleFlow.Run.Seed

/-!
# Contexts

The values that a run knows by name: the inputs, and the results of the calls so far.

* `RuleFlow.Source.literalValue` is the value of a literal.
* `RuleFlow.Context` is the type; `RuleFlow.Context.bind` adds a value.
* `RuleFlow.Context.resolve` is the value of a source in a context.
-/

namespace RuleFlow

/-- **What stops a run**: a value that the caller is told about, or an error. -/
inductive Halt where
  /-- A value that the rule cannot go on with, with the code to report. -/
  | refused (code : Int) (message : String)
  /-- An error. -/
  | error (e : RuleError)
deriving Repr

/-- The halt that trouble on values comes to, in a run of a rule. -/
def Halt.ofTrouble (ruleId : String) : Trouble → Halt
  | .refused code message => .refused code message
  | .internal message | .stepLimit message => .error (.run (.internal ruleId message))
  | .fault f => .error (.fault f)

/-! ### Literals -/

namespace Value

/-- **The value of a literal** of a declared type. A number of no declared type becomes a decimal;
otherwise such a literal stands for itself. -/
def ofLiteral (v : Value) (type : DataType) : Except Fault Value :=
  match type with
  | .any => if v.isNumber then v.toNumber.map .decimal else .ok v
  | type => v.coerce type

/-- The value of a literal, or the error of one that is none of its type. -/
def literal (v : Value) (type : DataType) : Except RuleError Value :=
  match v.ofLiteral type with
  | .ok w => .ok w
  | .error f =>
    if f.isValueFault then .error (.bind (.invalidLiteral v type f.message)) else .error (.fault f)

end Value

/-- The value of an input that is left out. -/
def InputDecl.defaultValue (d : InputDecl) : Except Fault Value :=
  if d.default.isNull then .ok d.type.empty else d.default.coerce d.type

/-! ### Contexts -/

/-- **The values of a run** by name, beside the declared inputs. -/
structure Context where
  /-- The declarations of the inputs. -/
  inputs : List InputDecl
  /-- The values. -/
  values : Keyed Value

namespace Context

/-- The context at the start of a run. -/
def seed (inputs : List InputDecl) (given : Value) : Except Trouble Context :=
  (Seed.context (inputs.map InputDecl.seed) given).map fun values => { inputs, values }

/-- Whether a name has a value. -/
def has (c : Context) (name : String) : Bool :=
  c.values.has name

/-- **A name gets a value.** -/
def bind (c : Context) (name : String) (v : Value) : Context :=
  { c with values := c.values.set name v }

/-- The declaration of an input. Of several the last one counts. -/
def declaration? (c : Context) (name : String) : Option InputDecl :=
  c.inputs.reverse.find? fun d => d.name == name

/-- **The value of an input.** One without a value is as good as left out. -/
def input (c : Context) (name : String) : Except Halt Value :=
  match c.values.find? name with
  | some v => .ok v
  | none =>
    match c.declaration? name with
    | some d =>
      if d.mandatory then .error (.refused FailureCode.missingInput s!"{name} is required")
      else d.defaultValue.mapError fun f => .error (.fault f)
    | none => .error (.refused FailureCode.missingInput s!"{name} is required")

/-- **The result of a call.** -/
def result (c : Context) (name : String) : Except Halt Value :=
  match c.values.find? name with
  | some v => .ok v
  | none => .error (.error (.run (.missingVariable name)))

mutual

/-- **The value of a source.** -/
def resolve (c : Context) : Source → Except Halt Value
  | .literal v type => (v.literal type).mapError .error
  | .input name => c.input name
  | .variable name => c.result name
  | .array items => (resolveAll c items).map .list

/-- The values of a list of sources, in order. -/
def resolveAll (c : Context) : List Source → Except Halt (List Value)
  | [] => .ok []
  | source :: rest =>
    match resolve c source with
    | .error h => .error h
    | .ok v => (resolveAll c rest).map (v :: ·)

end

end Context

end RuleFlow
