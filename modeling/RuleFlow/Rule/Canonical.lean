import RuleFlow.Digest.Sha256
import RuleFlow.Json.Writer
import RuleFlow.Rule.Basic

/-!
# Canonical form and fingerprint

Equal rules have one written form, whatever the order of keys in the documents that they were read
from. The digest of that form identifies a rule.

* `RuleFlow.Value.canonical` sorts the keys of every record, and writes decimals and temporal values
  as records of their own.
* `RuleFlow.Rule.document` is a rule as a value; every part carries its kind, so that parts of
  different kinds never have one form.
* `RuleFlow.Rule.fingerprint` is the digest.
-/

namespace RuleFlow

/-! ### Values -/

namespace Value

/-- The order of fields by their keys. -/
def keyOrder (f g : String × Value) : Bool :=
  decide (f.1 ≤ g.1)

mutual

/-- **The canonical form of a value.** -/
def canonical : Value → Value
  | .decimal d => .record [("decimal", .text d.toText)]
  | .temporal t => .record [("date", .text t.isoText)]
  | .list items => .list (canonicalItems items)
  | .record fields => .record ((canonicalFields fields).mergeSort keyOrder)
  | v => v

/-- The canonical forms of the items of a list. -/
def canonicalItems : List Value → List Value
  | [] => []
  | v :: rest => v.canonical :: canonicalItems rest

/-- The canonical forms of the fields of a record. -/
def canonicalFields : List (String × Value) → List (String × Value)
  | [] => []
  | (key, v) :: rest => (key, v.canonical) :: canonicalFields rest

end

/-- **The canonical text of a value.** -/
def canonicalText (v : Value) : String :=
  Json.write Json.compact v.canonical

/-- **The fingerprint of a value.** -/
def fingerprint (v : Value) : String :=
  Sha256.hexDigest v.canonicalText

end Value

/-! ### Rules -/

/-- A part of a rule as a value, with its kind. -/
def taggedPart (kind : String) (fields : Keyed Value) : Value :=
  .record (fields ++ [("kind", .text kind)])

mutual

/-- A source as a value. -/
def Source.document : Source → Value
  | .literal v type =>
    taggedPart "StaticValue" [("literal", v), ("data_type", .text type.name)]
  | .input name => taggedPart "InputParam" [("name", .text name)]
  | .variable name => taggedPart "StepVariable" [("name", .text name)]
  | .array items => taggedPart "ArrayValue" [("items", .list (Source.documents items))]

/-- The sources of a list as values. -/
def Source.documents : List Source → List Value
  | [] => []
  | source :: rest => source.document :: Source.documents rest

end

/-- The declaration of an input as a value. -/
def InputDecl.document (d : InputDecl) : Value :=
  taggedPart "InputParameterDecl"
    [("name", .text d.name), ("data_type", .text d.type.name), ("mandatory", .bool d.mandatory),
      ("default", d.default)]

/-- An argument as a value. -/
def Argument.document (a : Argument) : Value :=
  taggedPart "CallArgument" [("source", a.source.document), ("param_name", .ofText? a.parameter)]

/-- A condition as a value. -/
def Condition.document (c : Condition) : Value :=
  taggedPart "Condition"
    [("lhs", c.lhs.document), ("operator", .text c.operator.name), ("rhs", c.rhs.document),
      ("combinator", .ofText? (c.combinator.map Combinator.name))]

/-- What an output step reports, as a value. -/
def Report.document : Report → Value
  | .success value => taggedPart "SuccessOutcome" [("value", value.document)]
  | .failure code message =>
    taggedPart "FailureOutcome" [("code", .int code), ("message", message.document)]

/-- A step as a value. -/
def Step.document (s : Step) : Value :=
  match s.action with
  | .call result function arguments next =>
    taggedPart "CallStep"
      [("id", .text s.id), ("output_variable", .text result), ("function_name", .text function),
        ("args", .list (arguments.map Argument.document)), ("next", .ofText? next)]
  | .branch conditions onTrue onFalse =>
    taggedPart "BranchStep"
      [("id", .text s.id), ("conditions", .list (conditions.map Condition.document)),
        ("on_true", .ofText? onTrue), ("on_false", .ofText? onFalse)]
  | .output report =>
    taggedPart "OutputStep" [("id", .text s.id), ("outcome", report.document)]

namespace Rule

/-- **A rule as a value.** -/
def document (r : Rule) : Value :=
  taggedPart "RuleDefinition"
    [("rule_id", .text r.id), ("name", .text r.name),
      ("input_params", .list (r.inputs.map InputDecl.document)),
      ("steps", .list (r.steps.map Step.document)), ("entry", .ofText? r.entry)]

/-- **The canonical text of a rule.** -/
def canonicalText (r : Rule) : String :=
  r.document.canonicalText

/-- **The fingerprint of a rule.** -/
def fingerprint (r : Rule) : String :=
  r.document.fingerprint

end Rule

end RuleFlow
