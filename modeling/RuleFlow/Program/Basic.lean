import RuleFlow.Rule.Compiled

/-!
# Emitted programs

A compiled rule becomes a program of its own: a loop around one block of statements for each step,
over a context of named values and a few registers.

* `RuleFlow.Program` is the type, of `RuleFlow.Program.Statement`s and `RuleFlow.Program.Expr`s.
* `RuleFlow.CompiledRule.emit` makes the program of a compiled rule, and `RuleFlow.Rule.emit` that
  of a rule.
-/

namespace RuleFlow

namespace Program

/-- **Expressions.** -/
inductive Expr where
  /-- A value written out. -/
  | literal (v : Value)
  /-- The value of a name in the context. -/
  | named (name : String)
  /-- A list. -/
  | list (items : List Expr)
deriving Repr, Inhabited

/-- **Statements.** -/
inductive Statement where
  /-- Call a function and keep its result. -/
  | call (builtin : Builtin) (args : List Expr)
  /-- Return the result of the call, if it is a failure. -/
  | returnFailure
  /-- Give the result of the call a name. -/
  | keep (name : String)
  /-- Compare two values; what comes out is joined to what came out before, if a combinator is
  given. -/
  | compare (combinator : Option Combinator) (operator : Operator) (left : Expr)
    (leftType : DataType) (right : Expr) (rightType : DataType)
  /-- Go on at a step, if there is one. -/
  | goTo (target : Option String)
  /-- Go on at one of two steps, as the last comparison says. -/
  | goToEither (onTrue onFalse : Option String)
  /-- Return a value. -/
  | returnValue (value : Expr)
  /-- Return a failure. -/
  | returnError (code : Int) (message : Expr)
deriving Repr

end Program

/-- **Emitted programs.** -/
structure Program where
  /-- The identifier of the rule. -/
  ruleId : String
  /-- The name of the rule. -/
  ruleName : String
  /-- The fingerprint of the rule. -/
  fingerprint : String
  /-- The version of the registry. -/
  version : String
  /-- The functions whose bodies belong to the program. -/
  builtins : List Builtin
  /-- The declared inputs. -/
  inputs : List Seed
  /-- The bound on the number of steps. -/
  limit : Int
  /-- The first step. -/
  entry : String
  /-- The statements of each step. -/
  blocks : List (String × List Program.Statement)

/-! ### Emission -/

mutual

/-- The expression of a source. A literal is read, and the value written out. -/
def Source.emit : Source → Except RuleError Program.Expr
  | .literal v type => (v.literal type).map .literal
  | .input name | .variable name => .ok (.named name)
  | .array items => (Source.emitAll items).map .list

/-- The expressions of a list of sources. -/
def Source.emitAll : List Source → Except RuleError (List Program.Expr)
  | [] => .ok []
  | source :: rest =>
    match source.emit with
    | .error e => .error e
    | .ok expr => (Source.emitAll rest).map (expr :: ·)

end

namespace CompiledRule

/-- The statement of a condition. -/
def emitCondition (c : CompiledRule) (condition : Condition) :
    Except RuleError Program.Statement := do
  let left ← condition.lhs.emit
  let right ← condition.rhs.emit
  return .compare condition.combinator condition.operator left (condition.lhs.type c.types) right
    (condition.rhs.type c.types)

/-- **The statements of a step.** -/
def emitStep (c : CompiledRule) (s : Step) : Except RuleError (List Program.Statement) :=
  match s.action with
  | .call result _ _ next =>
    match c.calls.find? s.id with
    | none => .error (.fault (.noKey s.id))
    | some call => do
      let args ← Source.emitAll call.args
      return [.call call.function.builtin args, .returnFailure, .keep result, .goTo next]
  | .branch conditions onTrue onFalse => do
    let statements ← conditions.mapM c.emitCondition
    return statements ++ [.goToEither onTrue onFalse]
  | .output (.success value) => value.emit.map fun expr => [.returnValue expr]
  | .output (.failure code message) => message.emit.map fun expr => [.returnError code expr]

/-- The functions whose bodies the program of a rule needs, each once. -/
def builtins (c : CompiledRule) : List Builtin :=
  (c.functions.map (·.builtin)).foldl
    (fun found b => if found.contains b then found else found ++ [b]) []

/-- **The program of a compiled rule**, with a bound on its number of steps. -/
def emit (c : CompiledRule) (limit : Int) : Except RuleError Program := do
  let blocks ← c.order.mapM fun id =>
    match c.rule.step? id with
    | none => .error (.fault (.noKey id))
    | some s => (c.emitStep s).map (id, ·)
  return {
    ruleId := c.rule.id
    ruleName := c.rule.name
    fingerprint := c.fingerprint
    version := c.version
    builtins := c.builtins
    inputs := c.rule.inputs.map InputDecl.seed
    limit
    entry := c.entry
    blocks }

end CompiledRule

/-- **Compiling a rule and emitting its program.** -/
def Rule.emit (r : Rule) (limit : Int) (registry : Registry := Catalogue.standard) :
    Except RuleError Program := do
  (← r.compile registry).emit limit

end RuleFlow
