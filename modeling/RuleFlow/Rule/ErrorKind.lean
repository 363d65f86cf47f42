import RuleFlow.Keyed
import RuleFlow.Fault

/-!
# Kinds of errors

Every error of a rule has a kind. Kinds have names, which callers see, and a status, by which a
service answers.

* `RuleFlow.ErrorKind` lists the kinds, `RuleFlow.ErrorKind.name` names them.
* `RuleFlow.ErrorKind.status` is the status of an answer: a refused document is the fault of the
  caller, and so is a rule that cannot be compiled; an inconsistent run is not.
* `RuleFlow.ErrorKind.notice` is what is told of an error that is reported with given arguments.
-/

namespace RuleFlow

/-- **Kinds of errors.** -/
inductive ErrorKind where
  /-- Any error of a rule. -/
  | ofRule
  /-- A document that is no rule. -/
  | validation
  /-- Something that is asked for and not there. -/
  | notFound
  /-- A rule that cannot be compiled. -/
  | compilation
  /-- Steps that do not hang together. -/
  | graph
  /-- A name that is taken twice. -/
  | duplicateId
  /-- A target that is no step. -/
  | danglingReference
  /-- A circle of steps. -/
  | cycle
  /-- No first step, or several. -/
  | ambiguousEntry
  /-- A name that has no value. -/
  | unresolvedVariable
  /-- A way that ends without an output. -/
  | unterminatedPath
  /-- Arguments that do not fit. -/
  | signatureMismatch
  /-- A function that is not registered. -/
  | unknownFunction
  /-- A condition on types that do not go together. -/
  | typeMismatch
  /-- A literal that is none of its type. -/
  | invalidLiteral
  /-- An inconsistent run. -/
  | internal
  /-- A run that ended without an outcome. -/
  | incomplete
  /-- A result that is not there. -/
  | contextConsistency
  /-- A run that took too many steps. -/
  | stepLimitExceeded
deriving Repr, DecidableEq

namespace ErrorKind

/-- The kinds. -/
def all : List ErrorKind :=
  [ofRule, validation, notFound, compilation, graph, duplicateId, danglingReference, cycle,
    ambiguousEntry, unresolvedVariable, unterminatedPath, signatureMismatch, unknownFunction,
    typeMismatch, invalidLiteral, internal, incomplete, contextConsistency, stepLimitExceeded]

/-- **The name of a kind.** -/
def name : ErrorKind → String
  | ofRule => "RuleEngineError"
  | validation => "ValidationError"
  | notFound => "NotFoundError"
  | compilation => "CompilationError"
  | graph => "GraphError"
  | duplicateId => "DuplicateIdError"
  | danglingReference => "DanglingReferenceError"
  | cycle => "CycleError"
  | ambiguousEntry => "AmbiguousEntryError"
  | unresolvedVariable => "UnresolvedVariableError"
  | unterminatedPath => "UnterminatedPathError"
  | signatureMismatch => "SignatureMismatchError"
  | unknownFunction => "UnknownFunctionError"
  | typeMismatch => "TypeMismatchError"
  | invalidLiteral => "InvalidLiteralError"
  | internal => "InternalRuleError"
  | incomplete => "IncompleteRuleError"
  | contextConsistency => "ContextConsistencyError"
  | stepLimitExceeded => "StepLimitExceededError"

/-- The kind of a name. -/
def ofName? (s : String) : Option ErrorKind :=
  all.find? fun k => k.name == s

/-- **The status of an answer** that tells of an error: 400 for a document, 404 for a name, 422 for
a rule, and 500 for what no caller can mend. -/
def status : ErrorKind → Nat
  | validation => 400
  | notFound => 404
  | compilation | graph | duplicateId | danglingReference | cycle | ambiguousEntry
  | unresolvedVariable | unterminatedPath | signatureMismatch | unknownFunction | typeMismatch
  | invalidLiteral => 422
  | ofRule | internal | incomplete | contextConsistency | stepLimitExceeded => 500

end ErrorKind

/-! ### Notices -/

/-- **What is told of an error**: a text, and details by name. -/
structure Notice where
  /-- The text. -/
  text : String
  /-- The details. -/
  details : Keyed Value
deriving Repr

namespace Notice

/-- The names on a path: a list of texts, or the characters of one text. -/
def pathNames (path : Value) : Except Fault (List String) :=
  match path with
  | .text s => .ok (s.toList.map fun c => String.ofList [c])
  | .list items =>
    items.mapM fun item =>
      match item with
      | .text s => .ok s
      | v => .error (.misused s!"sequence item: expected str instance, {v.className} found")
  | v => .error (.misused s!"can only join an iterable, not {v.className}")

/-- The notice of a circle of steps. -/
def ofCycle (path : Value) : Except Fault Notice :=
  (pathNames path).map fun names =>
    { text := "Cycle detected: " ++ " -> ".intercalate names, details := [("path", path)] }

/-- The notice of a name without a value, in a wording of its own if one is given. -/
def ofUnresolved (name stepId wording : Value) : Notice :=
  { text :=
      if wording.truthy then wording.display
      else
        s!"Variable '{name.display}' used in step '{stepId.display}' is not defined on every path"
    details := [("name", name), ("step_id", stepId)] }

/-- The notice of a way that ends without an output. -/
def ofUnterminated (stepId : Value) : Notice :=
  { text := s!"Step '{stepId.display}' can end execution without an output"
    details := [("step_id", stepId)] }

/-- The notice of an error that is given its text and details. -/
def ofText (text details : Value) : Notice :=
  { text := text.display
    details :=
      match details with
      | .record fields => fields
      | _ => [] }

end Notice

/-- **The notice of an error** that is reported with given arguments. Circles, names without a
value and ways without an output word their notices themselves; the rest are given a text, and
details if there are any. -/
def ErrorKind.notice (kind : ErrorKind) (args : List Value) : Except Fault Notice :=
  match kind, args with
  | .cycle, [path] => Notice.ofCycle path
  | .cycle, _ => refusal
  | .unresolvedVariable, [name, stepId] => .ok (.ofUnresolved name stepId .null)
  | .unresolvedVariable, [name, stepId, wording] => .ok (.ofUnresolved name stepId wording)
  | .unresolvedVariable, _ => refusal
  | .unterminatedPath, [stepId] => .ok (.ofUnterminated stepId)
  | .unterminatedPath, _ => refusal
  | _, [text] => .ok (.ofText text .null)
  | _, [text, details] => .ok (.ofText text details)
  | _, _ => refusal
where
  refusal : Except Fault Notice :=
    .error (.misused s!"{kind.name} does not take {args.length} arguments")

end RuleFlow
