import RuleFlow.Json.Writer
import RuleFlow.Program.Run
import RuleFlow.Rule.Reader
import RuleFlow.Run.Engine

/-!
# The command

The command compiles a rule from a file. It emits the program of the rule, or runs the rule on
inputs from another file, with the program or with the engine.

* `RuleFlow.Command.Task` is what is to be done.
* `RuleFlow.Command.perform` does it; `RuleFlow.Command.Report` is what comes of it: what goes to
  which stream, and the exit code.
-/

namespace RuleFlow.Command

/-- **What is to be done** with a rule. -/
inductive Task where
  /-- Emitting the program of the rule, to a file of a given name or to the standard output. -/
  | emit (output : Option String)
  /-- Running the rule on inputs, with the engine or with its program. -/
  | run (inputs : Value) (engine : Bool)

/-- **What comes of a task.** -/
structure Report where
  /-- The exit code: 0 for success, 1 for an error of the rule, 2 for a failure of a run. -/
  exit : Nat
  /-- What goes to the standard output. -/
  out : String := ""
  /-- What goes to the standard error. -/
  err : String := ""
  /-- The program that was emitted. -/
  program : Option Program := none

/-- An indented form with characters outside ASCII by their codes. -/
def plainIndented : Json.Layout :=
  { Json.indented with asciiOnly := true }

/-- What is told of an error of a rule: its kind and wording, then its details if there are any. -/
def errorText (e : RuleError) : String :=
  e.kindName ++ ": " ++ e.message ++ "\n" ++
    if e.details.isEmpty then ""
    else Json.write plainIndented (.record e.details) ++ "\n"

/-- The document of an outcome. -/
def outcomeDocument (o : Outcome) : Except Fault Value := do
  match o with
  | .success v => return Outcome.toValue (.success (← v.toPlain))
  | .failure .. => return o.toValue

/-- What comes of a run that ended with an outcome. -/
def outcomeReport (o : Outcome) : Except Fault Report := do
  let document ← outcomeDocument o
  Json.check false document
  return {
    exit := if o.isSuccess then 0 else 2
    out := Json.write Json.indented document ++ "\n" }

/-- Emitting the program of a rule. -/
def emitReport (c : CompiledRule) (output : Option String) : Except RuleError Report := do
  let p ← c.emit defaultStepLimit
  let err :=
    match output with
    | some name => s!"Wrote {c.rule.id} to {name}\n"
    | none => ""
  return { exit := 0, err, program := some p }

/-- Running a rule. -/
def runReport (c : CompiledRule) (inputs : Value) (engine : Bool) : Except RuleError Report := do
  let o ← if engine then c.execute inputs else (← c.emit defaultStepLimit).run inputs
  (outcomeReport o).mapError .fault

/-- A task, up to what stops it. -/
def attempt (document : Value) (task : Task) : Except RuleError Report := do
  let c ← (← Rule.read document).compile Catalogue.standard
  match task with
  | .emit output => emitReport c output
  | .run inputs engine => runReport c inputs engine

/-- **Doing a task** with a rule. Errors of the rule are reported; faults are not. -/
def perform (document : Value) (task : Task) : Except Fault Report :=
  match attempt document task with
  | .ok report => .ok report
  | .error (.fault f) => .error f
  | .error e => .ok { exit := 1, err := errorText e }

end RuleFlow.Command
