import RuleFlow.Service.Command

/-!
# Command lines

A command line names the file of a rule. Options name a file to write the program to and a file of
inputs, and choose the engine.

* `RuleFlow.Command.Invocation` is what a command line asks for.
* `RuleFlow.Command.Invocation.read` reads one; `RuleFlow.Command.UsageError` says what may be
  wrong with it.
* `RuleFlow.Command.Invocation.task` is the task, once the inputs are read.
-/

namespace RuleFlow.Command

/-- **What a command line asks for.** -/
structure Invocation where
  /-- The file of the rule. -/
  rule : String
  /-- The file to write the program to. -/
  output : Option String := none
  /-- The file of the inputs. -/
  inputs : Option String := none
  /-- Whether the engine runs the rule, and not its program. -/
  engine : Bool := false
deriving Repr

/-- **The options.** -/
inductive Flag where
  /-- A file to write the program to. -/
  | output
  /-- A file of inputs. -/
  | inputs
  /-- The choice of the engine. -/
  | engine
deriving Repr, DecidableEq

/-- **What may be wrong with a command line.** -/
inductive UsageError where
  /-- No file of a rule is named. -/
  | noRule
  /-- An option that needs an argument has none. -/
  | noArgument (flag : Flag)
  /-- An option that needs no argument is given one. -/
  | extraArgument (flag : Flag) (argument : String)
  /-- Words that mean nothing. -/
  | unrecognized (words : List String)
deriving Repr

/-- The long and the short name of an option. -/
def Flag.names : Flag → String
  | .output => "--output/-o"
  | .inputs => "--inputs/-i"
  | .engine => "--engine"

/-- How the command is used. -/
def usage : String :=
  "usage: ruleflow [--output OUTPUT] [--inputs INPUTS] [--engine] rule"

/-- **The wording of an error of a command line.** -/
def UsageError.message : UsageError → String
  | .noRule => "the following arguments are required: rule"
  | .noArgument flag => s!"argument {flag.names}: expected one argument"
  | .extraArgument flag argument =>
    s!"argument {flag.names}: ignored explicit argument {Text.quote argument}"
  | .unrecognized words => "unrecognized arguments: " ++ " ".intercalate words

/-- The option of a word, and an argument that stands in the same word behind an equals sign. -/
def Flag.ofWord? (word : String) : Option (Flag × Option String) :=
  let name := String.ofList (word.toList.takeWhile (· != '='))
  let argument :=
    match word.toList.dropWhile (· != '=') with
    | [] => none
    | _ :: rest => some (String.ofList rest)
  match name with
  | "--output" | "-o" => some (.output, argument)
  | "--inputs" | "-i" => some (.inputs, argument)
  | "--engine" => some (.engine, argument)
  | _ => none

/-- Whether a word is an option: it starts with a dash and is not a dash alone. -/
def isOption (word : String) : Bool :=
  word.toList.head? == some '-' && word != "-"

/-- What a command line asks for so far: the words that are no options, and what options say. -/
structure Gathered where
  /-- The words that are no options, last first. -/
  words : List String := []
  /-- The options that are unknown, last first. -/
  unknown : List String := []
  /-- The file to write the program to. -/
  output : Option String := none
  /-- The file of the inputs. -/
  inputs : Option String := none
  /-- Whether the engine is chosen. -/
  engine : Bool := false

/-- An option with its argument. -/
def Gathered.set (p : Gathered) (flag : Flag) (argument : String) : Gathered :=
  match flag with
  | .output => { p with output := some argument }
  | .inputs => { p with inputs := some argument }
  | .engine => { p with engine := true }

/-- Reading the words of a command line, up to which file they name. -/
def readWords (p : Gathered) : List String → Except UsageError Gathered
  | [] => .ok p
  | word :: rest =>
    match Flag.ofWord? word with
    | some (.engine, none) => readWords { p with engine := true } rest
    | some (.engine, some argument) => .error (.extraArgument .engine argument)
    | some (flag, some argument) => readWords (p.set flag argument) rest
    | some (flag, none) =>
      match rest with
      | [] => .error (.noArgument flag)
      | argument :: rest =>
        if isOption argument then .error (.noArgument flag)
        else readWords (p.set flag argument) rest
    | none =>
      if isOption word then readWords { p with unknown := word :: p.unknown } rest
      else readWords { p with words := word :: p.words } rest

/-- **Reading a command line.** -/
def Invocation.read (arguments : List String) : Except UsageError Invocation := do
  let p ← readWords {} arguments
  match p.words.reverse with
  | [] => throw .noRule
  | rule :: others =>
    match others ++ p.unknown.reverse with
    | [] => return { rule, output := p.output, inputs := p.inputs, engine := p.engine }
    | words => throw (.unrecognized words)

/-- **The task of a command line**, with the inputs read from their file. -/
def Invocation.task (i : Invocation) (inputs : Option Value) : Task :=
  match inputs with
  | some inputs => .run inputs i.engine
  | none => .emit (i.output.filter (· != ""))

end RuleFlow.Command
