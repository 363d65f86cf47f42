import RuleFlow.Registry.Catalogue
import RuleFlow.Rule.Canonical
import RuleFlow.Rule.Graph
import RuleFlow.Run.Context

/-!
# Compiled rules

A rule is compiled once against a registry: its graph is analysed, every literal is read, every call
gets one source for each parameter, and conditions are checked against the declared types.

* `RuleFlow.Source.type` is the declared type of a source.
* `RuleFlow.BoundCall.bind` gives the arguments of a call to the parameters of its function.
* `RuleFlow.Rule.compile` makes a compiled rule.
-/

namespace RuleFlow

/-- The declared types of names. -/
abbrev Types := Keyed DataType

/-- **The declared type of a source**, as far as it is known. -/
def Source.type (types : Types) : Source → DataType
  | .literal _ type => type
  | .input name | .variable name => (types.find? name).getD .any
  | .array _ => .any

/-! ### Calls -/

/-- **A call bound to its function**, with one source for each parameter. -/
structure BoundCall where
  /-- The step. -/
  stepId : String
  /-- The function. -/
  function : Entry
  /-- The sources. -/
  args : List Source

namespace BoundCall

/-- The sources that parameters have so far. -/
abbrev Slots := List (Option Source)

/-- Giving the arguments with a name to the parameters of that name. -/
def placeNamed (f : Entry) (stepId : String) :
    Slots → List Argument → Except BindError Slots
  | slots, [] => .ok slots
  | slots, a :: rest =>
    match a.parameter with
    | none => placeNamed f stepId slots rest
    | some name =>
      match f.parameterIndex? name with
      | none => .error (.unknownParameter f.name name stepId)
      | some i =>
        if (slots.getD i none).isSome then .error (.boundTwice f.name name stepId)
        else placeNamed f stepId (slots.set i (some a.source)) rest

/-- Giving sources to the free parameters in order; what is left over is returned too. -/
def placeInOrder : Slots → List Source → Slots × List Source
  | slots, [] => (slots, [])
  | [], sources => ([], sources)
  | some taken :: slots, sources =>
    let (slots, left) := placeInOrder slots sources
    (some taken :: slots, left)
  | none :: slots, source :: sources =>
    let (slots, left) := placeInOrder slots sources
    (some source :: slots, left)

/-- The sources of the arguments without a name. -/
def positional (arguments : List Argument) : List Source :=
  (arguments.filter fun a => a.parameter.isNone).map (·.source)

/-- Whether a value of a type may stand where another type is expected. -/
def fits (expected actual : DataType) : Bool :=
  actual == .any || expected == .any || actual == expected

/-- The source of one parameter: what it was given, if it fits, or its default. -/
def fill (f : Entry) (stepId : String) (types : Types) (p : Parameter) :
    Option Source → Except RuleError Source
  | none =>
    match p.defaultValue with
    | .ok v => .ok (.literal v p.type)
    | .error fault => .error (.fault fault)
  | some source =>
    let actual := source.type types
    if fits p.type actual then .ok source
    else .error (.bind (.argumentType f.name p.name stepId p.type actual))

/-- **Binding a call**: arguments go to parameters by name, then in order; the rest have their
defaults. -/
def bind (registry : Registry) (types : Types) (stepId function : String)
    (arguments : List Argument) : Except RuleError BoundCall := do
  let f ← registry.require function
  let slots ← (placeNamed f stepId (f.parameters.map fun _ => none) arguments).mapError .bind
  let (slots, left) := placeInOrder slots (positional arguments)
  if !left.isEmpty then
    .error (.bind (.tooManyArguments f.name stepId f.parameters.length arguments.length))
  else
    let args ← (f.parameters.zip slots).mapM fun (p, slot) => fill f stepId types p slot
    return { stepId, function := f, args }

end BoundCall

/-! ### Literals, combinators and conditions -/

mutual

/-- The check that every literal inside a source is one of its type. -/
def Source.checkLiterals : Source → Except RuleError Unit
  | .literal v type => (v.literal type).map fun _ => ()
  | .array items => Source.checkAllLiterals items
  | _ => .ok ()

/-- The check of the literals inside a list of sources, in order. -/
def Source.checkAllLiterals : List Source → Except RuleError Unit
  | [] => .ok ()
  | source :: rest =>
    match source.checkLiterals with
    | .error e => .error e
    | .ok () => Source.checkAllLiterals rest

end

/-- The check of the combinators of a branch: the first condition has none, every other has one. -/
def Step.checkCombinators (s : Step) : Except ReadError Unit :=
  match s.action with
  | .branch conditions _ _ =>
    if conditions.isEmpty then .error (.noConditions s.id)
    else
      match conditions.zipIdx.find? fun (c, i) => c.combinator.isNone != (i == 0) with
      | some (c, i) => .error (.misplacedCombinator s.id i c.combinator)
      | none => .ok ()
  | _ => .ok ()

/-- **The check of a condition**: its sides have one type, and the operator is one for that type. -/
def Condition.check (types : Types) (stepId : String) (index : Nat) (c : Condition) :
    Except BindError Unit :=
  let left := c.lhs.type types
  let right := c.rhs.type types
  let site : ConditionSite := { stepId, index, operator := c.operator, left, right }
  if left ≠ .any ∧ right ≠ .any ∧ left ≠ right then .error (.typesDiffer site)
  else
    let known := if left = .any then right else left
    if known = .any then .ok ()
    else if c.operator.isOrdering ∧ known ≠ .number ∧ known ≠ .date then
      .error (.needsOrder site known)
    else if c.operator.isTextual ∧ known ≠ .string then .error (.needsText site known)
    else .ok ()

/-! ### Compiled rules -/

/-- **A compiled rule.** -/
structure CompiledRule where
  /-- The rule. -/
  rule : Rule
  /-- The first step. -/
  entry : String
  /-- The steps, each before those that may follow it. -/
  order : List String
  /-- The calls, by the names of their steps. -/
  calls : Keyed BoundCall
  /-- The declared types of inputs and results. -/
  types : Types
  /-- The fingerprint of the rule. -/
  fingerprint : String
  /-- The version of the registry. -/
  version : String

namespace CompiledRule

/-- **The functions that are called**, each once, in the order of the steps. -/
def functions (c : CompiledRule) : List Entry :=
  (c.order.filterMap c.calls.find?).foldl (fun found call =>
    if found.any fun f => f.name == call.function.name then found
    else found ++ [call.function]) []

/-- **The summary of a compiled rule.** -/
def summary (c : CompiledRule) : Value :=
  .record [("rule_id", .text c.rule.id), ("name", .text c.rule.name), ("entry", .text c.entry),
    ("order", .list (c.order.map .text)),
    ("inputs", .list (c.rule.inputs.map fun d =>
      .record [("name", .text d.name), ("data_type", .text d.type.name),
        ("mandatory", .bool d.mandatory)])),
    ("variables", .record (c.types.map fun (name, type) => (name, .text type.name))),
    ("functions", .list (c.functions.map fun f => .text f.name)),
    ("fingerprint", .text c.fingerprint), ("registry_version", .text c.version)]

end CompiledRule

/-- **What binding has found so far**: the calls, and the types of inputs and results. -/
structure Bindings where
  /-- The calls. -/
  calls : Keyed BoundCall := []
  /-- The types. -/
  types : Types

namespace Bindings

/-- The types of the inputs. -/
def ofInputs (inputs : List InputDecl) : Bindings :=
  { types := Keyed.ofPairs (inputs.map fun d => (d.name, d.type)) }

/-- Binding the call of a step. -/
def addCall (registry : Registry) (b : Bindings) (s : Step) : Except RuleError Bindings :=
  match s.action with
  | .call result function arguments _ => do
    let call ← BoundCall.bind registry b.types s.id function arguments
    return { calls := b.calls.set s.id call, types := b.types.set result call.function.returnType }
  | _ => .ok b

/-- Binding the call of a step, or checking its conditions. -/
def addStep (registry : Registry) (b : Bindings) (s : Step) : Except RuleError Bindings :=
  match s.action with
  | .branch conditions _ _ => do
    conditions.zipIdx.forM fun (c, i) => (c.check b.types s.id i).mapError .bind
    return b
  | _ => b.addCall registry s

end Bindings

namespace Rule

/-- The check of the defaults of inputs. -/
def checkDefaults (r : Rule) : Except RuleError Unit :=
  r.inputs.forM fun d =>
    match d.defaultValue with
    | .ok _ => .ok ()
    | .error f =>
      if f.isValueFault then .error (.bind (.invalidDefault d.default d.name d.type))
      else .error (.fault f)

/-- The registry that a rule is compiled against: an empty one gives way to the standard
catalogue. -/
def effectiveRegistry (registry : Registry) : Registry :=
  if registry.entries.isEmpty then Catalogue.standard else registry

/-- **Compiling a rule** against a registry. -/
def compile (r : Rule) (registry : Registry) : Except RuleError CompiledRule := do
  let registry := effectiveRegistry registry
  let analysis ← r.analyze.mapError .graph
  r.steps.forM fun s => s.checkCombinators.mapError .read
  r.checkDefaults
  let steps := analysis.order.filterMap r.step?
  steps.forM fun s => Source.checkAllLiterals s.sources
  let bindings ← steps.foldlM (Bindings.addStep registry) (.ofInputs r.inputs)
  return {
    rule := r
    entry := analysis.entry
    order := analysis.order
    calls := bindings.calls
    types := bindings.types
    fingerprint := r.fingerprint
    version := registry.version }

/-- **Putting a rule together unchecked**, with a first step and an order that are taken as they
are. Only the calls are bound, in the order of the editor. -/
def assemble (r : Rule) (entry : String) (order : List String) (registry : Registry) :
    Except RuleError CompiledRule := do
  let bindings ← r.steps.foldlM (Bindings.addCall registry) (.ofInputs r.inputs)
  return {
    rule := r
    entry
    order
    calls := bindings.calls
    types := bindings.types
    fingerprint := r.fingerprint
    version := registry.version }

end Rule

end RuleFlow
