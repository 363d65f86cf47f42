import RuleFlow.Rule.Basic
import RuleFlow.Rule.ErrorKind

/-!
# Errors of rules

Why a rule is refused, and what a run of one can come to beside an outcome.

* `RuleFlow.ReadError`: a document is no rule.
* `RuleFlow.GraphError`: the steps of a rule do not hang together.
* `RuleFlow.BindError`: calls, conditions or literals do not fit their declared types.
* `RuleFlow.RunError`: a run reaches a state that a checked rule does not reach.
* `RuleFlow.RuleError` joins them; `RuleFlow.RuleError.kind?`, `message` and `details` are what is
  told of an error.
-/

namespace RuleFlow

/-! ### Documents -/

/-- **Why a document is no rule.** A path leads to the place in the document. -/
inductive ReadError where
  /-- The document is no record. -/
  | notRecord (className : String)
  /-- The rule has no identifier; the keys of the document are told. -/
  | noRuleId (keys : List String)
  /-- The inputs are no list. -/
  | inputsNotList (ruleId : String)
  /-- The steps are no list. -/
  | stepsNotList (ruleId : String)
  /-- There are more steps than allowed. -/
  | tooManySteps (ruleId : String) (count : Nat) (most : Int)
  /-- The flag of a mandatory input is no flag. -/
  | badFlag (v : Value) (path : String)
  /-- A data type is none. -/
  | unknownType (v : Value) (path : String)
  /-- The operator that would test for membership. -/
  | membership (v : Value) (path : String)
  /-- An operator is none. -/
  | unknownOperator (v : Value) (path : String)
  /-- A source is no record. -/
  | sourceNotRecord (className path : String)
  /-- A source that refers to a name has none. -/
  | sourceNameless (kind path : String)
  /-- A list of sources is no list. -/
  | arrayNotList (path : String)
  /-- The kind of a source is none. -/
  | unknownSource (kind : Value) (path : String)
  /-- An input has no name. -/
  | inputNameless (path : String)
  /-- A step is no record. -/
  | stepNotRecord (path : String)
  /-- A step has no identifier. -/
  | stepNameless (path : String)
  /-- The kind of a step is none. -/
  | unknownStep (kind : Value) (path stepId : String)
  /-- A target is no text. -/
  | targetNotText (stepId label className : String)
  /-- A call has no name for its result. -/
  | callNameless (stepId : String)
  /-- A call has no function. -/
  | callWithoutFunction (stepId : String)
  /-- The function of a call has no name. -/
  | functionNameless (stepId : String)
  /-- An argument has no source. -/
  | argumentWithoutData (path : String)
  /-- A branch has no conditions. -/
  | noConditions (stepId : String)
  /-- A condition is no record. -/
  | conditionNotRecord (path : String)
  /-- A combinator is none. -/
  | unknownCombinator (v : Value) (path : String)
  /-- The targets of a branch are no record. -/
  | branchTargets (stepId : String)
  /-- An output step has no data. -/
  | outputWithoutData (stepId : String)
  /-- The code of a failure is no whole number. -/
  | badCode (v : Value) (stepId : String)
  /-- The kind of an outcome is none. -/
  | unknownResponse (v : Value) (stepId : String)
  /-- A condition has a combinator although it is the first, or has none although it is not. -/
  | misplacedCombinator (stepId : String) (index : Nat) (combinator : Option Combinator)
deriving Repr

namespace ReadError

/-- The words that name the kinds of sources. -/
def sourceKinds : List String :=
  ["static", "inputParam", "stepOutputVariable", "array"]

/-- The words that name the kinds of steps. -/
def stepKinds : List String :=
  ["subFunction", "condition", "output"]

/-- **The wording.** -/
def message : ReadError → String
  | notRecord _ => "Rule payload must be an object"
  | noRuleId _ => "Rule must have an 'id' or 'ruleId'"
  | inputsNotList _ => "'inputParams' must be a list"
  | stepsNotList _ => "'steps' must be a list"
  | tooManySteps _ count most => s!"Rule has {count} steps, more than the allowed {most}"
  | badFlag v path => s!"Invalid mandatory flag {v.inspect} at {path}"
  | unknownType v path => s!"Unknown data type {v.inspect} at {path}"
  | membership _ path =>
    s!"Membership operator 'OR' is not supported at {path}; " ++
      "use separate conditions joined with the OR combinator"
  | unknownOperator v path => s!"Unknown operator {v.inspect} at {path}"
  | sourceNotRecord _ path => s!"Data source must be an object at {path}"
  | sourceNameless kind path => s!"Data source of type '{kind}' needs a variable name at {path}"
  | arrayNotList path => s!"Array data source must hold a list at {path}"
  | unknownSource kind path => s!"Unknown data source type {kind.inspect} at {path}"
  | inputNameless path => s!"Input parameter needs a name at {path}"
  | stepNotRecord path => s!"Step must be an object at {path}"
  | stepNameless path => s!"Step needs an id at {path}"
  | unknownStep kind path _ => s!"Unknown step type {kind.inspect} at {path}"
  | targetNotText stepId label className =>
    s!"Step '{stepId}' must have a string '{label}' pointer, got {className}"
  | callNameless stepId => s!"Call step '{stepId}' needs an outputVariableName"
  | callWithoutFunction stepId => s!"Call step '{stepId}' needs a subFunction"
  | functionNameless stepId => s!"Call step '{stepId}' does not name a function"
  | argumentWithoutData path => s!"Call argument needs 'data' at {path}"
  | noConditions stepId => s!"Condition step '{stepId}' needs at least one condition"
  | conditionNotRecord path => s!"Condition must be an object at {path}"
  | unknownCombinator v path => s!"Unknown combinator {v.inspect} at {path}"
  | branchTargets stepId =>
    s!"Condition step '{stepId}' needs a \x7btrue, false\x7d next record"
  | outputWithoutData stepId => s!"Output step '{stepId}' needs data"
  | badCode v stepId => s!"Invalid error code {v.inspect} in output step '{stepId}'"
  | unknownResponse v stepId => s!"Unknown responseType {v.inspect} in output step '{stepId}'"
  | misplacedCombinator stepId index _ =>
    let expected := if index = 0 then "no combinator" else "an AND or OR combinator"
    s!"Condition {index} of step '{stepId}' must have {expected}"

/-- The record of a place in the document. -/
def atPath (path : String) : Keyed Value :=
  [("path", .text path)]

/-- The record of a place in the document and the words allowed there. -/
def allowed (path : String) (words : List String) : Keyed Value :=
  [("path", .text path), ("allowed", .list (words.map .text))]

/-- The record of a step. -/
def ofStep (stepId : String) : Keyed Value :=
  [("step_id", .text stepId)]

/-- **What is told beside the wording.** -/
def details : ReadError → Keyed Value
  | notRecord className => [("type", .text className)]
  | noRuleId keys => [("keys", .list (keys.map .text))]
  | inputsNotList ruleId | stepsNotList ruleId => [("rule_id", .text ruleId)]
  | tooManySteps ruleId count most =>
    [("rule_id", .text ruleId), ("steps", .int count), ("max_steps", .int most)]
  | badFlag _ path => atPath path
  | unknownType _ path => allowed path (DataType.all.map DataType.name)
  | membership v path => [("path", .text path), ("operator", v)]
  | unknownOperator _ path => allowed path (Operator.all.map Operator.name)
  | sourceNotRecord className path => [("path", .text path), ("type", .text className)]
  | sourceNameless _ path | arrayNotList path | inputNameless path | stepNotRecord path
  | stepNameless path | argumentWithoutData path | conditionNotRecord path => atPath path
  | unknownSource _ path => allowed path sourceKinds
  | unknownStep _ path stepId =>
    [("path", .text path), ("step_id", .text stepId), ("allowed", .list (stepKinds.map .text))]
  | targetNotText stepId label _ => [("step_id", .text stepId), ("target", .text label)]
  | callNameless stepId | callWithoutFunction stepId | functionNameless stepId
  | noConditions stepId | branchTargets stepId | outputWithoutData stepId | badCode _ stepId
  | unknownResponse _ stepId => ofStep stepId
  | unknownCombinator _ path => allowed path (Combinator.all.map Combinator.name)
  | misplacedCombinator stepId index combinator =>
    [("step_id", .text stepId), ("condition", .int index),
      ("combinator", .ofText? (combinator.map Combinator.name))]

end ReadError

/-! ### Graphs of steps -/

/-- **Why the steps of a rule do not hang together.** -/
inductive GraphError where
  /-- Two inputs have one name. -/
  | duplicateInput (name : String)
  /-- Two steps have one name. -/
  | duplicateStep (stepId : String)
  /-- Two calls give their results one name. -/
  | duplicateVariable (name first second : String)
  /-- A result has the name of an input. -/
  | shadowedInput (name stepId : String)
  /-- A target is no step. -/
  | danglingTarget (stepId target : String)
  /-- The declared first step is no step. -/
  | danglingEntry (entry : String)
  /-- Steps follow each other in a circle; the last of the path is the first again. -/
  | cycle (path : List String)
  /-- There are no steps. -/
  | noSteps (ruleId : String)
  /-- There is not exactly one step that no step names. -/
  | severalRoots (ruleId : String) (candidates : List String)
  /-- The declared first step is not the one that no step names. -/
  | wrongEntry (entry root : String)
  /-- A step reads an input that is not declared. -/
  | undeclaredInput (name stepId : String)
  /-- A step reads a result that not every way to the step produces. -/
  | undefinedVariable (name stepId : String)
  /-- A run can end at a step that reports nothing. -/
  | unterminated (stepId : String)
deriving Repr, DecidableEq

namespace GraphError

/-- **The kind of an error.** -/
def kind : GraphError → ErrorKind
  | duplicateInput _ | duplicateStep _ | duplicateVariable .. | shadowedInput .. => .duplicateId
  | danglingTarget .. | danglingEntry _ => .danglingReference
  | cycle _ => .cycle
  | noSteps _ | severalRoots .. | wrongEntry .. => .ambiguousEntry
  | undeclaredInput .. | undefinedVariable .. => .unresolvedVariable
  | unterminated _ => .unterminatedPath

/-- **The wording.** -/
def message : GraphError → String
  | duplicateInput name => s!"Duplicate input parameter '{name}'"
  | duplicateStep stepId => s!"Duplicate step id '{stepId}'"
  | duplicateVariable name first second =>
    s!"Output variable '{name}' is produced by both '{first}' and '{second}'"
  | shadowedInput name stepId =>
    s!"Output variable '{name}' of step '{stepId}' shadows an input parameter"
  | danglingTarget stepId target => s!"Step '{stepId}' points to unknown step '{target}'"
  | danglingEntry entry => s!"Declared entry '{entry}' is not a step"
  | cycle path => "Cycle detected: " ++ " -> ".intercalate path
  | noSteps _ => "Rule has no steps"
  | severalRoots _ candidates =>
    s!"Rule must have exactly one entry step, found {candidates.length}"
  | wrongEntry entry root => s!"Declared entry '{entry}' is not the unreferenced step '{root}'"
  | undeclaredInput name stepId =>
    s!"Input parameter '{name}' used in step '{stepId}' is not declared"
  | undefinedVariable name stepId =>
    s!"Variable '{name}' used in step '{stepId}' is not defined on every path"
  | unterminated stepId => s!"Step '{stepId}' can end execution without an output"

/-- **What is told beside the wording.** -/
def details : GraphError → Keyed Value
  | duplicateInput name => [("name", .text name)]
  | duplicateStep stepId => [("step_id", .text stepId)]
  | duplicateVariable name first second =>
    [("name", .text name), ("step_ids", .list [.text first, .text second])]
  | shadowedInput name stepId | undeclaredInput name stepId | undefinedVariable name stepId =>
    [("name", .text name), ("step_id", .text stepId)]
  | danglingTarget stepId target => [("step_id", .text stepId), ("target", .text target)]
  | danglingEntry entry => [("entry", .text entry)]
  | cycle path => [("path", .list (path.map .text))]
  | noSteps ruleId => [("rule_id", .text ruleId)]
  | severalRoots ruleId candidates =>
    [("rule_id", .text ruleId), ("candidates", .list (candidates.map .text))]
  | wrongEntry entry root => [("entry", .text entry), ("unreferenced", .text root)]
  | unterminated stepId => [("step_id", .text stepId)]

end GraphError

/-! ### Calls, conditions and literals -/

/-- The condition that a type error is about: its step, its place among the conditions of the step,
its operator, and the types of its sides. -/
structure ConditionSite where
  /-- The step. -/
  stepId : String
  /-- The number of conditions before it. -/
  index : Nat
  /-- The operator. -/
  operator : Operator
  /-- The type of the left side. -/
  left : DataType
  /-- The type of the right side. -/
  right : DataType
deriving Repr, DecidableEq

/-- **Why calls, conditions or literals do not fit.** -/
inductive BindError where
  /-- A function is not in the registry. -/
  | unknownFunction (name version : String)
  /-- An argument names no parameter. -/
  | unknownParameter (function parameter stepId : String)
  /-- Two arguments name one parameter. -/
  | boundTwice (function parameter stepId : String)
  /-- There are more arguments than parameters. -/
  | tooManyArguments (function stepId : String) (expected given : Nat)
  /-- An argument has another type than its parameter. -/
  | argumentType (function parameter stepId : String) (expected actual : DataType)
  /-- The two sides of a condition have different types. -/
  | typesDiffer (site : ConditionSite)
  /-- Values of a type have no order. -/
  | needsOrder (site : ConditionSite) (type : DataType)
  /-- Values of a type are not searched like texts. -/
  | needsText (site : ConditionSite) (type : DataType)
  /-- A literal is none of its declared type. -/
  | invalidLiteral (v : Value) (type : DataType) (reason : String)
  /-- The default of an input is none of its declared type. -/
  | invalidDefault (v : Value) (name : String) (type : DataType)
deriving Repr

namespace BindError

/-- **The kind of an error.** -/
def kind : BindError → ErrorKind
  | unknownFunction .. => .unknownFunction
  | unknownParameter .. | boundTwice .. | tooManyArguments .. | argumentType .. =>
    .signatureMismatch
  | typesDiffer _ | needsOrder .. | needsText .. => .typeMismatch
  | invalidLiteral .. | invalidDefault .. => .invalidLiteral

/-- **The wording.** -/
def message : BindError → String
  | unknownFunction name _ => s!"Unknown function '{name}'"
  | unknownParameter function parameter stepId =>
    s!"{function} has no parameter '{parameter}' (step '{stepId}')"
  | boundTwice function parameter stepId =>
    s!"Parameter '{parameter}' of {function} is bound twice (step '{stepId}')"
  | tooManyArguments function stepId expected given =>
    s!"{function} takes {expected} arguments, step '{stepId}' passes {given}"
  | argumentType function parameter stepId expected actual =>
    s!"Parameter '{parameter}' of {function} expects {expected.name}, got {actual.name} " ++
      s!"(step '{stepId}')"
  | typesDiffer site =>
    s!"Condition {site.index} of step '{site.stepId}' compares {site.left.name} " ++
      s!"with {site.right.name}"
  | needsOrder site type =>
    s!"Operator {site.operator.name} needs NUMBER or DATE operands, " ++
      s!"condition {site.index} of step '{site.stepId}' uses {type.name}"
  | needsText site type =>
    s!"Operator {site.operator.name} needs STRING operands, " ++
      s!"condition {site.index} of step '{site.stepId}' uses {type.name}"
  | invalidLiteral v type _ => s!"Literal {v.inspect} is not a valid {type.name}"
  | invalidDefault v name type =>
    s!"Default {v.inspect} of input '{name}' is not a valid {type.name}"

/-- The record of a condition. -/
def siteDetails (site : ConditionSite) : Keyed Value :=
  [("step_id", .text site.stepId), ("condition", .int site.index),
    ("operator", .text site.operator.name), ("lhs_type", .text site.left.name),
    ("rhs_type", .text site.right.name)]

/-- **What is told beside the wording.** -/
def details : BindError → Keyed Value
  | unknownFunction name version =>
    [("function", .text name), ("registry_version", .text version)]
  | unknownParameter function parameter stepId | boundTwice function parameter stepId =>
    [("step_id", .text stepId), ("function", .text function), ("param", .text parameter)]
  | tooManyArguments function stepId expected given =>
    [("step_id", .text stepId), ("function", .text function), ("expected", .int expected),
      ("given", .int given)]
  | argumentType function parameter stepId expected actual =>
    [("step_id", .text stepId), ("function", .text function), ("param", .text parameter),
      ("expected", .text expected.name), ("actual", .text actual.name)]
  | typesDiffer site | needsOrder site _ | needsText site _ => siteDetails site
  | invalidLiteral v type reason =>
    [("literal", .text v.inspect), ("data_type", .text type.name), ("reason", .text reason)]
  | invalidDefault _ name type => [("name", .text name), ("data_type", .text type.name)]

end BindError

/-! ### Runs -/

/-- **What a checked rule does not run into.** -/
inductive RunError where
  /-- A run took more steps than its bound. -/
  | stepLimit (ruleId : String) (limit : Int) (stepId : String)
  /-- A run ended without an outcome. -/
  | incomplete (ruleId : String)
  /-- The result of a call is not there. -/
  | missingVariable (name : String)
  /-- Another inconsistency in a run of a rule. -/
  | internal (ruleId message : String)
  /-- A run of an emitted program took more steps than its bound. -/
  | programStepLimit (message : String)
  /-- An inconsistency in a run of an emitted program. -/
  | programInternal (message : String)
deriving Repr, DecidableEq

namespace RunError

/-- **The kind of an error.** -/
def kind : RunError → ErrorKind
  | stepLimit .. | programStepLimit _ => .stepLimitExceeded
  | incomplete _ => .incomplete
  | missingVariable _ => .contextConsistency
  | internal .. | programInternal _ => .internal

/-- **The wording.** -/
def message : RunError → String
  | stepLimit ruleId limit _ => s!"Rule {ruleId} exceeded {limit} steps"
  | incomplete ruleId => s!"Rule {ruleId} finished without reaching an output step"
  | missingVariable name => s!"Step variable '{name}' is missing from the execution context"
  | internal _ message | programStepLimit message | programInternal message => message

/-- **What is told beside the wording.** -/
def details : RunError → Keyed Value
  | stepLimit ruleId limit stepId =>
    [("rule_id", .text ruleId), ("limit", .int limit), ("step_id", .text stepId)]
  | incomplete ruleId | internal ruleId _ => [("rule_id", .text ruleId)]
  | missingVariable name => [("name", .text name)]
  | programStepLimit _ | programInternal _ => []

end RunError

/-! ### All errors -/

/-- **What can come of a rule beside an outcome.** -/
inductive RuleError where
  /-- The document is no rule. -/
  | read (e : ReadError)
  /-- The steps do not hang together. -/
  | graph (e : GraphError)
  /-- Calls, conditions or literals do not fit. -/
  | bind (e : BindError)
  /-- A run reached an inconsistent state. -/
  | run (e : RunError)
  /-- A function that was asked for is not in the catalogue. -/
  | notFound (function version : String)
  /-- A fault that is no error of the rule. -/
  | fault (f : Fault)
deriving Repr

namespace RuleError

/-- **The kind of an error.** A fault has none. -/
def kind? : RuleError → Option ErrorKind
  | read _ => some .validation
  | graph e => some e.kind
  | bind e => some e.kind
  | run e => some e.kind
  | notFound .. => some .notFound
  | fault _ => none

/-- **The name of the kind** of an error, or of what a fault is. -/
def kindName : RuleError → String
  | read _ => ErrorKind.validation.name
  | graph e => e.kind.name
  | bind e => e.kind.name
  | run e => e.kind.name
  | notFound .. => ErrorKind.notFound.name
  | fault f => f.className

/-- **The wording.** -/
def message : RuleError → String
  | read e => e.message
  | graph e => e.message
  | bind e => e.message
  | run e => e.message
  | notFound function _ => s!"Function '{function}' not found"
  | fault f => f.message

/-- **What is told beside the wording.** -/
def details : RuleError → Keyed Value
  | read e => e.details
  | graph e => e.details
  | bind e => e.details
  | run e => e.details
  | notFound function version =>
    [("function", .text function), ("registry_version", .text version)]
  | fault _ => []

end RuleError

end RuleFlow
