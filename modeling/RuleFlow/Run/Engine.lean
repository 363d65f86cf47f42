import RuleFlow.Rule.Compiled

/-!
# Running compiled rules

A run starts at the first step and goes from step to step until an output step reports an outcome.
A value that a rule cannot go on with ends the run with a failure.

* `RuleFlow.CompiledRule.perform` does one step.
* `RuleFlow.CompiledRule.runFrom` goes on for a bounded number of steps.
* `RuleFlow.CompiledRule.execute` is a whole run.
-/

namespace RuleFlow

/-- **What a step comes to**: the end of the run, or the next step. -/
inductive Progress where
  /-- The run ends. -/
  | finished (outcome : Outcome)
  /-- The run goes on in a context, at a step if there is one. -/
  | onward (context : Context) (target : Option String)

/-- The bound on the number of steps of a run, unless another one is given. -/
def defaultStepLimit : Int := 1000

namespace CompiledRule

/-! ### Steps -/

/-- The truth of one condition. -/
def holds (c : CompiledRule) (context : Context) (condition : Condition) : Except Halt Bool := do
  let left ← context.resolve condition.lhs
  let right ← context.resolve condition.rhs
  (Value.compare condition.operator left (condition.lhs.type c.types) right
    (condition.rhs.type c.types)).mapError (Halt.ofTrouble c.rule.id)

/-- **The truth of conditions**, joined from left to right; `before` is that of the conditions
before them. Every condition is evaluated. -/
def joined (c : CompiledRule) (context : Context) : Value → List Condition → Except Halt Value
  | before, [] => .ok before
  | before, condition :: rest =>
    match c.holds context condition with
    | .error h => .error h
    | .ok b =>
      match condition.combinator with
      | none => c.joined context (.bool b) rest
      | some combinator => c.joined context (combinator.join before (.bool b)) rest

/-- What an output step reports. -/
def reported (context : Context) : Report → Except Halt Outcome
  | .success value => (context.resolve value).map .success
  | .failure code message => (context.resolve message).map fun v => .failure code v.stringify

/-- **One step.** -/
def perform (c : CompiledRule) (context : Context) (s : Step) : Except Halt Progress :=
  match s.action with
  | .call result _ _ next =>
    match c.calls.find? s.id with
    | none => .error (.error (.fault (.noKey s.id)))
    | some call => do
      let args ← context.resolveAll call.args
      match call.function.builtin.invoke args with
      | .success v => return .onward (context.bind result v) next
      | .failure code message => return .finished (.failure code message)
  | .branch conditions onTrue onFalse => do
    let matched ← c.joined context .null conditions
    return .onward context (if matched.truthy then onTrue else onFalse)
  | .output report => (reported context report).map .finished

/-! ### Runs -/

/-- **A run from a step on**, with so many steps left of its bound. -/
def runFrom (c : CompiledRule) (limit : Int) :
    Nat → Context → Option String → Except Halt Outcome
  | _, _, none => .error (.error (.run (.incomplete c.rule.id)))
  | 0, _, some id => .error (.error (.run (.stepLimit c.rule.id limit id)))
  | left + 1, context, some id =>
    match c.rule.step? id with
    | none => .error (.error (.fault (.noKey id)))
    | some s =>
      match c.perform context s with
      | .error h => .error h
      | .ok (.finished outcome) => .ok outcome
      | .ok (.onward context target) => c.runFrom limit left context target

/-- A run with given inputs, up to what stops it. -/
def run (c : CompiledRule) (inputs : Value) (limit : Int) : Except Halt Outcome := do
  let context ← (Context.seed c.rule.inputs inputs).mapError (Halt.ofTrouble c.rule.id)
  c.runFrom limit limit.toNat context (some c.entry)

/-- **A run with given inputs.** No inputs are as good as an empty record. -/
def execute (c : CompiledRule) (inputs : Value) (limit : Int := defaultStepLimit) :
    Except RuleError Outcome :=
  match c.run (inputs.orElse (.record [])) limit with
  | .ok outcome => .ok outcome
  | .error (.refused code message) => .ok (.failure code message)
  | .error (.error e) => .error e

end CompiledRule

/-- **Compiling a rule and running it.** -/
def Rule.execute (r : Rule) (inputs : Value) (registry : Registry := Catalogue.standard)
    (limit : Int := defaultStepLimit) : Except RuleError Outcome := do
  (← r.compile registry).execute inputs limit

end RuleFlow
