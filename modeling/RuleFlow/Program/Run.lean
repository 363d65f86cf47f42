import RuleFlow.Json.Writer
import RuleFlow.Program.Literal
import RuleFlow.Program.Text
import RuleFlow.Run.Engine

/-!
# Running programs

What the text of a program does when it runs. A value that is written out in it is read back from
what is written, so it is as good as its text.

* `RuleFlow.Program.written` are the values that are written out, and `RuleFlow.Program.load` reads
  what is needed of them before the run.
* `RuleFlow.Program.Expr.eval` evaluates an expression, `RuleFlow.Program.Statement.exec` executes
  a statement. Each is told the place where it stands in the run, by which the objects that it makes
  are known.
* `RuleFlow.Program.loop` goes from block to block for a bounded number of times.
* `RuleFlow.Program.run` is a whole run, its errors turned into those of rules.
-/

namespace RuleFlow

namespace Program

/-! ### What is written out -/

mutual

/-- The values that are written out in an expression. -/
def Expr.written : Expr → List Value
  | .literal v => [v]
  | .named _ => []
  | .list items => Expr.writtenAll items

/-- The values that are written out in a list of expressions. -/
def Expr.writtenAll : List Expr → List Value
  | [] => []
  | expr :: rest => expr.written ++ Expr.writtenAll rest

end

/-- The values that are written out in a statement. -/
def Statement.written : Statement → List Value
  | .call _ args => Expr.writtenAll args
  | .compare _ _ left _ right _ => left.written ++ right.written
  | .returnValue value => value.written
  | .returnError code message => .int code :: message.written
  | _ => []

/-- **The values that are written out in a program**: the bound, the defaults of its inputs, and
what stands in its blocks. -/
def written (p : Program) : List Value :=
  .int p.limit :: (p.inputs.map (·.default) ++
    p.blocks.flatMap fun (_, statements) => statements.flatMap Statement.written)

/-- A value, read back from what it is written as. -/
def reread (place : List Nat) (v : Value) : Except Fault Value :=
  match Literal.read? place v.literalText with
  | some w => .ok w
  | none => .error .unreadable

/-- Declared inputs, their defaults read back. -/
def rereadDefaults : List Seed → Except Fault (List Seed)
  | [] => .ok []
  | s :: rest =>
    match reread [rest.length] s.default with
    | .error f => .error f
    | .ok default => (rereadDefaults rest).map ({ s with default } :: ·)

/-- **Loading a program.** Its text does not come about if a whole number has too many digits to be
written, and it is refused as a whole if something in it is not an expression. The defaults of the
inputs are read once and for all. -/
def load (p : Program) : Except Fault (List Seed) := do
  p.written.forM (Json.check false)
  p.written.forM fun v => (reread [] v).map fun _ => ()
  rereadDefaults p.inputs

/-! ### Running -/

mutual

/-- **The value of an expression**, evaluated at a place. -/
def Expr.eval (context : Keyed Value) (place : List Nat) : Expr → Except Trouble Value
  | .literal v => (reread place v).mapError .fault
  | .named name =>
    match context.find? name with
    | some v => .ok v
    | none => .error (.fault (.noKey name))
  | .list items => (Expr.evalAll context place items).map .list

/-- The values of a list of expressions, in order. -/
def Expr.evalAll (context : Keyed Value) (place : List Nat) :
    List Expr → Except Trouble (List Value)
  | [] => .ok []
  | expr :: rest =>
    match expr.eval context (rest.length :: place) with
    | .error t => .error t
    | .ok v => (Expr.evalAll context place rest).map (v :: ·)

end

/-- **The state of a running program.** A register that was never written to has no value. -/
structure Registers where
  /-- The named values. -/
  context : Keyed Value
  /-- The step to go on at. -/
  step : Option String
  /-- What came out of the last comparisons. -/
  matched : Option Value := none
  /-- The result of the last call. -/
  result : Option Outcome := none

/-- **What a statement comes to**: the end of the run, or a new state. -/
inductive Flow where
  /-- The run ends. -/
  | returned (outcome : Outcome)
  /-- The run goes on. -/
  | onward (registers : Registers)

/-- The register of comparisons, which has to be written before it is read. -/
def Registers.readMatched (r : Registers) : Except Trouble Value :=
  match r.matched with
  | some v => .ok v
  | none => .error (.fault (.unbound "matched"))

/-- The register of calls, which has to be written before it is read. -/
def Registers.readResult (r : Registers) : Except Trouble Outcome :=
  match r.result with
  | some outcome => .ok outcome
  | none => .error (.fault (.unbound "result"))

/-- **Executing a statement** at a place. -/
def Statement.exec (place : List Nat) (r : Registers) : Statement → Except Trouble Flow
  | .call builtin args => do
    let args ← Expr.evalAll r.context place args
    return .onward { r with result := some (builtin.invoke args) }
  | .returnFailure => do
    match ← r.readResult with
    | .success _ => return .onward r
    | .failure code message => return .returned (.failure code message)
  | .keep name => do
    match ← r.readResult with
    | .success v => return .onward { r with context := r.context.set name v }
    | .failure .. => .error (.fault (.noKey "value"))
  | .compare none operator left leftType right rightType => do
    let b ← compared operator left leftType right rightType
    return .onward { r with matched := some (.bool b) }
  | .compare (some combinator) operator left leftType right rightType => do
    let before ← r.readMatched
    let b ← compared operator left leftType right rightType
    return .onward { r with matched := some (combinator.join before (.bool b)) }
  | .goTo target => .ok (.onward { r with step := target })
  | .goToEither onTrue onFalse => do
    let matched ← r.readMatched
    return .onward { r with step := if matched.truthy then onTrue else onFalse }
  | .returnValue value => (value.eval r.context place).map fun v => .returned (.success v)
  | .returnError code message =>
    (message.eval r.context place).map fun v => .returned (.failure code v.stringify)
where
  compared (operator : Operator) (left : Expr) (leftType : DataType) (right : Expr)
      (rightType : DataType) : Except Trouble Bool := do
    let v ← left.eval r.context (0 :: place)
    let w ← right.eval r.context (1 :: place)
    Value.compare operator v leftType w rightType

/-- Executing the statements of a block in a round of the loop. -/
def execAll (round : Nat) (r : Registers) : List Statement → Except Trouble Flow
  | [] => .ok (.onward r)
  | statement :: rest =>
    match statement.exec [rest.length, round] r with
    | .ok (.onward r) => execAll round r rest
    | other => other

/-- The block of a step. -/
def block? (p : Program) (id : String) : Option (List Statement) :=
  (p.blocks.find? fun (name, _) => name == id).map (·.2)

/-- **The loop of a program**, with so many rounds left of its bound. -/
def loop (p : Program) : Nat → Registers → Except Trouble Outcome
  | left, r =>
    match r.step with
    | none => .error (.internal (incompleteText p.ruleId))
    | some id =>
      match left with
      | 0 => .error (.stepLimit s!"{limitText p.ruleId}{p.limit} steps")
      | left + 1 =>
        match p.block? id with
        | none => .error (.internal s!"Unknown step {Text.quote id}")
        | some statements =>
          match execAll left r statements with
          | .error t => .error t
          | .ok (.returned outcome) => .ok outcome
          | .ok (.onward r) => p.loop left r

/-- The call of the function of a program. -/
def call (p : Program) (inputs : Value) : Except Trouble Outcome := do
  let declared ← p.load.mapError .fault
  let context ← Seed.context declared (inputs.orElse (.record []))
  p.loop p.limit.toNat { context, step := some p.entry }

/-- **Running a program.** -/
def run (p : Program) (inputs : Value) : Except RuleError Outcome :=
  match p.call inputs with
  | .ok outcome => .ok outcome
  | .error (.refused code message) => .ok (.failure code message)
  | .error (.stepLimit message) => .error (.run (.programStepLimit message))
  | .error (.internal message) => .error (.run (.programInternal message))
  | .error (.fault f) => .error (.fault f)

end Program

end RuleFlow
