import RuleFlow.Rule.Error
import RuleFlow.Text.Case
import RuleFlow.Text.Search
import RuleFlow.Value.Whole

/-!
# Reading rules

A rule is read from the document of its editor. Besides the current spelling of keys there is an
older one, in which a function holds inputs and steps, targets are called `next_step`, and sides of
conditions and data of outputs are spread over keys of their own.

* `RuleFlow.Source.read`, `RuleFlow.Step.read` and `RuleFlow.Rule.read` read the parts and the
  whole.
* Every refusal tells the path to the refused place.
-/

namespace RuleFlow

namespace Value

/-- A field, or another one in its place if it counts as false. -/
def either (v : Value) (key other : String) : Value :=
  (v.field key).orElse (v.field other)

/-- A record of given fields. -/
def recordOf (fields : List (String × Value)) : Value :=
  .record (Keyed.ofPairs fields)

end Value

/-- A looked-up value is smaller than the list it was found in. -/
theorem Keyed.sizeOf_lt_of_find? {fields : List (String × Value)} {key : String} {v : Value}
    (h : Keyed.find? fields key = some v) : sizeOf v < sizeOf fields := by
  induction fields with
  | nil => simp [Keyed.find?] at h
  | cons entry rest ih =>
    obtain ⟨k, w⟩ := entry
    simp only [Keyed.find?, List.lookup_cons] at h
    cases hk : key == k with
    | true =>
      simp only [hk, Option.some.injEq] at h
      subst h
      simp only [List.cons.sizeOf_spec, Prod.mk.sizeOf_spec]
      omega
    | false =>
      simp only [hk] at h
      have := ih h
      simp only [List.cons.sizeOf_spec]
      omega

/-! ### Words -/

/-- The words that mean yes. -/
def yesWords : List String :=
  ["true", "y", "yes", "1"]

/-- The words that mean no. -/
def noWords : List String :=
  ["false", "n", "no", "0", ""]

/-- **Reading a flag**: a truth value or a word, in whatever case. Nothing means no. -/
def readFlag (raw : Value) (path : String) : Except ReadError Bool :=
  match raw with
  | .null => .ok false
  | .bool b => .ok b
  | raw =>
    let word := Text.lower (Text.trim raw.display)
    if yesWords.contains word then .ok true
    else if noWords.contains word then .ok false
    else .error (.badFlag raw path)

/-- **Reading a data type**, in whatever case. Nothing means any. -/
def DataType.read (raw : Value) (path : String) : Except ReadError DataType :=
  if raw.isAbsent then .ok .any
  else
    match DataType.ofName? (Text.upper raw.display) with
    | some t => .ok t
    | none => .error (.unknownType raw path)

/-- **Reading an operator**: its name or another spelling, in whatever case. -/
def Operator.read (raw : Value) (path : String) : Except ReadError Operator :=
  let word := if raw.isNull then "" else Text.trim raw.display
  match Operator.ofName? (Text.upper word) with
  | some op => .ok op
  | none =>
    match Operator.aliases.lookup (Text.lower word) with
    | some op => .ok op
    | none =>
      if Text.upper word = "OR" then .error (.membership raw path)
      else .error (.unknownOperator raw path)

/-! ### Sources -/

/-- Reading a name that a source refers to. -/
def readReference (kind : String) (raw : Option Value) (path : String) :
    Except ReadError String :=
  match raw with
  | some (.text name) => if name.isEmpty then .error (.sourceNameless kind path) else .ok name
  | _ => .error (.sourceNameless kind path)

mutual

/-- **Reading a source.** -/
def Source.read (raw : Value) (path : String) : Except ReadError Source :=
  match raw with
  | .record fields =>
    match (Keyed.find? fields "type").getD .null with
    | .text "static" =>
      (DataType.read ((Keyed.find? fields "dataType").getD .null) path).map
        (.literal ((Keyed.find? fields "value").getD .null))
    | .text "inputParam" =>
      (readReference "inputParam" (Keyed.find? fields "value") path).map .input
    | .text "stepOutputVariable" =>
      (readReference "stepOutputVariable" (Keyed.find? fields "value") path).map .variable
    | .text "array" =>
      match _h : Keyed.find? fields "value" with
      | some (.list items) => (Source.readItems items path 0).map .array
      | _ => .error (.arrayNotList path)
    | kind => .error (.unknownSource kind path)
  | raw => .error (.sourceNotRecord raw.className path)
termination_by sizeOf raw
decreasing_by
  have := Keyed.sizeOf_lt_of_find? _h
  simp only [Value.list.sizeOf_spec, Value.record.sizeOf_spec] at *
  omega

/-- Reading the items of a list of sources from the `index`-th on. What is no source is a literal of
any type. -/
def Source.readItems (items : List Value) (path : String) (index : Nat) :
    Except ReadError (List Source) :=
  match items with
  | [] => .ok []
  | item :: rest => do
    let source ←
      if (item.field? "type").isSome then Source.read item s!"{path}.value[{index}]"
      else .ok (.literal item .any)
    let sources ← Source.readItems rest path (index + 1)
    return source :: sources
termination_by sizeOf items

end

/-! ### Inputs -/

/-- **Reading the declaration of an input.** -/
def InputDecl.read (raw : Value) (path : String) : Except ReadError InputDecl :=
  if !(raw.field "name").truthy then .error (.inputNameless path)
  else do
    let type ← DataType.read (raw.field "dataType") path
    let mandatory ← readFlag (raw.field "mandatory") path
    return { name := (raw.field "name").display, type, mandatory, default := raw.field "default" }

/-! ### Steps -/

namespace Step

/-- Reading the name of a step that follows. The empty text means none. -/
def readTarget (raw : Value) (stepId label : String) : Except ReadError (Option String) :=
  match raw with
  | .null => .ok none
  | .text name => .ok (if name.isEmpty then none else some name)
  | raw => .error (.targetNotText stepId label raw.className)

/-- The values that can be gone through one after the other: the items of a list, the characters of
a text, or the keys of a record. -/
def iterated (raw : Value) : Except Fault (List Value) :=
  match raw with
  | .list items => .ok items
  | .text s => .ok (s.toList.map fun c => .text (String.ofList [c]))
  | .record fields => .ok (fields.map fun (key, _) => .text key)
  | raw => .error (.misused s!"'{raw.className}' object is not iterable")

/-- Reading an argument. -/
def readArgument (raw : Value) (path : String) : Except ReadError Argument :=
  match raw.field? "data" with
  | none => .error (.argumentWithoutData path)
  | some data => do
    let name := raw.either "subFuncParamId" "name"
    let source ← Source.read data s!"{path}.data"
    return { source, parameter := if name.truthy then some name.display else none }

/-- Reading a step that calls a function. -/
def readCall (raw next : Value) (stepId path : String) : Except RuleError Action := do
  let result := raw.field "outputVariableName"
  if !result.truthy then .error (.read (.callNameless stepId))
  else
    match raw.field "subFunction" with
    | .record fields =>
      let function := Value.record fields
      let name := (function.either "id" "name").orElse (function.field "functionName")
      if !name.truthy then .error (.read (.functionNameless stepId))
      else
        let raws ← (iterated ((function.field "inputParams").orElse (.list []))).mapError .fault
        let arguments ← raws.zipIdx.mapM fun (raw, i) =>
          (readArgument raw s!"{path}.subFunction.inputParams[{i}]").mapError .read
        let next ← (readTarget next stepId "next").mapError .read
        return .call result.display name.display arguments next
    | _ => .error (.read (.callWithoutFunction stepId))

/-- One side of a condition: a source of its own, or one spread over the keys of the condition. -/
def side (raw : Value) (name : String) : Value :=
  (raw.field name).orElse (.recordOf [("type", raw.field (name ++ "_type")),
    ("value", raw.field (name ++ "_value")), ("dataType", raw.field (name ++ "_data_type"))])

/-- Reading how a condition joins those before it. The first one joins nothing. -/
def readCombinator (raw : Value) (index : Nat) (path : String) :
    Except ReadError (Option Combinator) :=
  if index = 0 then .ok none
  else
    let word := Text.upper ((raw.field "combinator").orElse (.text "AND")).display
    match Combinator.ofName? word with
    | some c => .ok (some c)
    | none => .error (.unknownCombinator (raw.field "combinator") path)

/-- Reading a condition. -/
def readCondition (raw : Value) (index : Nat) (path : String) : Except ReadError Condition :=
  match raw with
  | .record fields => do
    let raw := Value.record fields
    let combinator ← readCombinator raw index path
    let lhs ← Source.read (side raw "lhs") s!"{path}.lhs"
    let operator ← Operator.read (raw.field "operator") s!"{path}.operator"
    let rhs ← Source.read (side raw "rhs") s!"{path}.rhs"
    return { lhs, operator, rhs, combinator }
  | _ => .error (.conditionNotRecord path)

/-- The targets of a branch, unread. -/
def branchTargets (next : Value) (stepId : String) : Except ReadError (Value × Value) :=
  match next with
  | .null => .ok (.null, .null)
  | .record fields =>
    let target (key old : String) : Value :=
      (Keyed.find? fields key).getD ((Keyed.find? fields old).getD .null)
    .ok (target "true" "onTrue", target "false" "onFalse")
  | _ => .error (.branchTargets stepId)

/-- Reading a step that branches. -/
def readBranch (raw next : Value) (stepId path : String) : Except ReadError Action :=
  match raw.field "conditions" with
  | .list (first :: rest) => do
    let conditions ← (first :: rest).zipIdx.mapM fun (raw, i) =>
      readCondition raw i s!"{path}.conditions[{i}]"
    let (onTrue, onFalse) ← branchTargets next stepId
    let onTrue ← readTarget onTrue stepId "true"
    let onFalse ← readTarget onFalse stepId "false"
    return .branch conditions onTrue onFalse
  | _ => .error (.noConditions stepId)

/-- The data of an output in the current spelling. -/
def outputData (data : Value) : Value :=
  if (data.field? "data_type").isSome then
    .recordOf [("type", data.field "data_type"), ("value", data.field "data_value"),
      ("dataType", data.field "data_value_type"),
      ("responseType", (data.field "response_type").orElse (.text "success")),
      ("errorCode", data.field "error_code"),
      ("errorMessage", (data.field "error_message").orElse (.text ""))]
  else data

/-- Reading the code of a failure. -/
def readCode (raw : Value) (stepId : String) : Except RuleError Int :=
  if raw.isAbsent then .ok FailureCode.functionError
  else
    match raw.toWhole with
    | .ok code => .ok code
    | .error f =>
      if f.className = "TypeError" ∨ f.className = "ValueError" then
        .error (.read (.badCode raw stepId))
      else .error (.fault f)

/-- Reading the message of a failure. -/
def readMessage (raw : Value) (path : String) : Except ReadError Source :=
  match raw with
  | .record fields => Source.read (.record fields) path
  | .null => .ok (.literal (.text "") .string)
  | raw => .ok (.literal (.text raw.display) .string)

/-- Reading a step that reports an outcome. -/
def readOutput (raw : Value) (stepId path : String) : Except RuleError Action :=
  match raw.either "data" "output_data" with
  | .record fields =>
    let data := outputData (.record fields)
    let word := Text.lower ((data.field "responseType").orElse (.text "success")).display
    if word = "success" then
      (Source.read data s!"{path}.data").mapError .read |>.map fun value =>
        .output (.success value)
    else if word = "error" ∨ word = "failure" then do
      let code ← readCode (data.field "errorCode") stepId
      let message ←
        (readMessage (data.field "errorMessage") s!"{path}.data.errorMessage").mapError .read
      return .output (.failure code message)
    else .error (.read (.unknownResponse (data.field "responseType") stepId))
  | _ => .error (.read (.outputWithoutData stepId))

/-- **Reading a step.** -/
def read (raw : Value) (path : String) : Except RuleError Step :=
  match raw with
  | .record fields =>
    let raw := Value.record fields
    let id := raw.field "id"
    if id.isNull ∨ id.display.isEmpty then .error (.read (.stepNameless path))
    else do
      let id := id.display
      let next := if (raw.field "next").isNull then raw.field "next_step" else raw.field "next"
      let action ←
        match raw.field "type" with
        | .text "subFunction" => readCall raw next id path
        | .text "condition" => (readBranch raw next id path).mapError .read
        | .text "output" => readOutput raw id path
        | kind => .error (.read (.unknownStep kind path id))
      return { id, action }
  | _ => .error (.read (.stepNotRecord path))

end Step

/-! ### Rules -/

namespace Rule

/-- A list of the document, unread; what counts as false is the empty list. -/
def listOf (body : Value) (key : String) (refusal : ReadError) : Except ReadError (List Value) :=
  match (body.field key).orElse (.list []) with
  | .list items => .ok items
  | _ => .error refusal

/-- **Reading a rule**, with at most so many steps if there is a bound. -/
def read (document : Value) (mostSteps : Option Int := none) : Except RuleError Rule :=
  match document with
  | .record fields => do
    let document := Value.record fields
    let id := document.either "ruleId" "id"
    if id.isNull ∨ (Text.trim id.display).isEmpty then
      .error (.read (.noRuleId (Keyed.keys fields)))
    else
      let id := id.display
      let body :=
        match document.field "ruleFunction" with
        | .record inner => Value.record inner
        | _ => document
      let rawInputs ← (listOf body "inputParams" (.inputsNotList id)).mapError .read
      let rawSteps ← (listOf body "steps" (.stepsNotList id)).mapError .read
      match mostSteps.filter fun most => decide (most < (rawSteps.length : Int)) with
      | some most => .error (.read (.tooManySteps id rawSteps.length most))
      | none =>
        let inputs ← rawInputs.zipIdx.mapM fun (raw, i) =>
          (InputDecl.read raw s!"$.inputParams[{i}]").mapError .read
        let steps ← rawSteps.zipIdx.mapM fun (raw, i) => Step.read raw s!"$.steps[{i}]"
        let entry := document.field "entry"
        return {
          id
          name := ((document.field "name").orElse (.text id)).display
          inputs
          steps
          entry := if entry.isNull then none else some entry.display }
  | document => .error (.read (.notRecord document.className))

end Rule

end RuleFlow
