import RuleFlow.DataType
import RuleFlow.Value.Basic

/-!
# Rules

A rule declares inputs and lists steps in the order of its editor. Which step follows which is
written into the steps.

* `RuleFlow.Source` is where a value comes from: a literal, an input, the result of an earlier
  step, or a list of sources.
* `RuleFlow.Step` calls a function, branches on conditions, or reports an outcome.
* `RuleFlow.Step.targets` and `RuleFlow.Step.sources` are the two views of a step that checks need.
-/

namespace RuleFlow

/-! ### Sources of values -/

/-- **Where a value comes from.** -/
inductive Source where
  /-- A literal of a declared type. -/
  | literal (v : Value) (type : DataType)
  /-- A declared input. -/
  | input (name : String)
  /-- The result of an earlier call. -/
  | variable (name : String)
  /-- A list, item by item. -/
  | array (items : List Source)
deriving Repr, Inhabited

/-- A reference inside a source. -/
inductive Reference where
  /-- To a declared input. -/
  | input (name : String)
  /-- To the result of an earlier call. -/
  | variable (name : String)
deriving DecidableEq, Repr

mutual

/-- **The references inside a source**, in order. -/
def Source.references : Source → List Reference
  | .literal .. => []
  | .input name => [.input name]
  | .variable name => [.variable name]
  | .array items => Source.referencesOfAll items

/-- The references inside a list of sources, in order. -/
def Source.referencesOfAll : List Source → List Reference
  | [] => []
  | source :: rest => source.references ++ Source.referencesOfAll rest

end

/-! ### Steps -/

/-- **An argument** of a call, given to a parameter by name or by position. -/
structure Argument where
  /-- Where the value comes from. -/
  source : Source
  /-- The name of the parameter, if the argument is given by name. -/
  parameter : Option String := none
deriving Repr

/-- **A condition** of a branch. All but the first say how they join those before them. -/
structure Condition where
  /-- The left side. -/
  lhs : Source
  /-- The comparison. -/
  operator : Operator
  /-- The right side. -/
  rhs : Source
  /-- How the condition joins those before it. -/
  combinator : Option Combinator := none
deriving Repr

/-- **What an output step reports.** -/
inductive Report where
  /-- A value. -/
  | success (value : Source)
  /-- A failure. -/
  | failure (code : Int) (message : Source)
deriving Repr

/-- **What a step does**, and which steps may follow. -/
inductive Action where
  /-- A call whose result gets a name. -/
  | call (result function : String) (arguments : List Argument) (next : Option String)
  /-- A branch on conditions. -/
  | branch (conditions : List Condition) (onTrue onFalse : Option String)
  /-- The end of a run. -/
  | output (report : Report)
deriving Repr

/-- **A step.** -/
structure Step where
  /-- The name of the step. -/
  id : String
  /-- What it does. -/
  action : Action
deriving Repr

namespace Step

/-- The places after a step, each with the step that it names or none. -/
def targets (s : Step) : List (Option String) :=
  match s.action with
  | .call _ _ _ next => [next]
  | .branch _ onTrue onFalse => [onTrue, onFalse]
  | .output _ => []

/-- **The steps that may follow.** -/
def successors (s : Step) : List String :=
  s.targets.filterMap fun target => target

/-- The sources that a step reads, in order. -/
def sources (s : Step) : List Source :=
  match s.action with
  | .call _ _ arguments _ => arguments.map (·.source)
  | .branch conditions _ _ => conditions.flatMap fun c => [c.lhs, c.rhs]
  | .output (.success value) => [value]
  | .output (.failure _ message) => [message]

/-- The references that a step reads, in order. -/
def references (s : Step) : List Reference :=
  s.sources.flatMap Source.references

/-- The name of the result of a call step. -/
def result? (s : Step) : Option String :=
  match s.action with
  | .call result _ _ _ => some result
  | _ => none

end Step

/-! ### Rules -/

/-- **The declaration of an input.** -/
structure InputDecl where
  /-- The name. -/
  name : String
  /-- The declared type. -/
  type : DataType := .any
  /-- Whether the input has to be given. -/
  mandatory : Bool := false
  /-- The value of an input that is left out, if not nothing. -/
  default : Value := .null
deriving Repr

/-- **A rule.** -/
structure Rule where
  /-- The identifier. -/
  id : String
  /-- The name. -/
  name : String
  /-- The declared inputs. -/
  inputs : List InputDecl := []
  /-- The steps, in the order of the editor. -/
  steps : List Step := []
  /-- The first step, if the rule names it. -/
  entry : Option String := none
deriving Repr

namespace Rule

/-- **The step of a name.** Of several the last one counts. -/
def step? (r : Rule) (id : String) : Option Step :=
  r.steps.reverse.find? fun s => s.id == id

/-- Whether a name is that of a step. -/
def hasStep (r : Rule) (id : String) : Bool :=
  r.steps.any fun s => s.id == id

/-- The names of the declared inputs. -/
def inputNames (r : Rule) : List String :=
  r.inputs.map (·.name)

end Rule

end RuleFlow
