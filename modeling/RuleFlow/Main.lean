import RuleFlow.Json.Reader
import RuleFlow.Program.Text
import RuleFlow.Service.Invocation

/-!
# The program

Reads the files that a command line names, does the task, and writes what comes of it.

* `RuleFlow.Command.readDocument` reads a file that holds a JSON text.
* `main` is the whole program.
-/

namespace RuleFlow.Command

/-- The document of a file. -/
def readDocument (file : String) : IO Value := do
  match Json.read (← IO.FS.readFile file) with
  | .ok v => return v
  | .error place => throw (.userError s!"{file} stops being JSON after {place} characters")

/-- Writing what came of a task. -/
def writeReport (i : Invocation) (r : Report) : IO Unit := do
  match r.program, i.output with
  | some p, some file => if file.isEmpty then IO.print p.text else IO.FS.writeFile file p.text
  | some p, none => IO.print p.text
  | none, _ => IO.print r.out
  IO.eprint r.err

end RuleFlow.Command

open RuleFlow

/-- **The program.** -/
def main (arguments : List String) : IO UInt32 := do
  match Command.Invocation.read arguments with
  | .error e =>
    IO.eprintln s!"{Command.usage}\nruleflow: error: {e.message}"
    return 2
  | .ok i =>
    let document ← Command.readDocument i.rule
    let inputs ← i.inputs.mapM Command.readDocument
    match Command.perform document (i.task inputs) with
    | .error f => throw (.userError s!"{f.className}: {f.message}")
    | .ok report =>
      Command.writeReport i report
      return UInt32.ofNat report.exit
