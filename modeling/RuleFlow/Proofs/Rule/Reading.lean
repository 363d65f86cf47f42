import RuleFlow.Proofs.Number.Whole
import RuleFlow.Rule.Reader

/-!
# What reading a document comes to

A document is read as a rule, or refused with the place that is wrong. This file tells exactly which
documents come to neither.

## What reading trips over

Before a part of a document is used its kind is looked at, or a fault of using it is turned into a
refusal. Two parts are not guarded enough. The arguments of a call are gone through whatever they
are, and the code of a failure may be without bounds, which is another fault than those that are
turned into a refusal.

* `RuleFlow.Step.Trips` are the steps that reading trips over, and `RuleFlow.Rule.Trips` the
  documents of which it comes to such a step.
* `RuleFlow.Step.ends_read` and `RuleFlow.Step.Trips.exists_read_eq` tell what reading a step comes
  to.
* `RuleFlow.Rule.read_closed_iff` is the result.
-/

namespace RuleFlow

/-- **A refusal** of a document. -/
def RuleError.IsRefusal (e : RuleError) : Prop :=
  ∃ refusal, e = .read refusal

/-- A part that is refused is refused in the whole. -/
theorem ends_mapError_read {α : Type} (x : Except ReadError α) :
    Ends (x.mapError RuleError.read) (fun _ => True) RuleError.IsRefusal := by
  cases x with
  | ok a => trivial
  | error refusal => exact ⟨refusal, rfl⟩

namespace Value

/-- **A value in parts**, which can be gone through one after the other. -/
def isCollection : Value → Bool
  | .list _ | .text _ | .record _ => true
  | _ => false

/-- **A number without bounds**: an infinite one, or one whose whole part outgrows memory. -/
def isUnbounded : Value → Bool
  | .float (.infinite _) | .decimal (.infinite _) => true
  | .decimal (.finite _ coefficient exponent) => outgrowsMemory coefficient exponent
  | _ => false

end Value

/-! ### Sources -/

/-- Reading a source by its three parts. -/
def Source.ofParts (kind value type : Value) (path : String) : Except ReadError Source :=
  match kind with
  | .text "static" => (DataType.read type path).map (.literal value)
  | .text "inputParam" => (readReference "inputParam" (some value) path).map .input
  | .text "stepOutputVariable" =>
    (readReference "stepOutputVariable" (some value) path).map .variable
  | .text "array" =>
    match value with
    | .list items => (Source.readItems items path 0).map .array
    | _ => .error (.arrayNotList path)
  | kind => .error (.unknownSource kind path)

theorem readReference_eq (kind : String) (found : Option Value) (path : String) :
    readReference kind found path = readReference kind (some (found.getD .null)) path := by
  cases found <;> rfl

/-- **A record is read as a source** by three of its fields. It does not matter whether one of them
is absent or holds nothing. -/
theorem Source.read_record (fields : List (String × Value)) (path : String) :
    Source.read (.record fields) path =
      Source.ofParts ((Value.record fields).field "type") ((Value.record fields).field "value")
        ((Value.record fields).field "dataType") path := by
  rw [Source.read]
  simp only [Value.field]
  generalize (Keyed.find? fields "type").getD .null = kind
  split
  next => rfl
  next => exact congrArg _ (readReference_eq _ _ path)
  next => exact congrArg _ (readReference_eq _ _ path)
  next =>
    cases Keyed.find? fields "value" with
    | none => rfl
    | some v => cases v <;> rfl
  next =>
    rw [Source.ofParts.eq_def]
    split <;> first | rfl | contradiction

/-- The items of a list that is looked up are smaller than the record. -/
theorem Value.sizeOf_items_lt {fields : List (String × Value)} {key : String} {items : List Value}
    (h : (Value.record fields).field key = .list items) :
    sizeOf items < sizeOf (Value.record fields) := by
  have hfound : Keyed.find? fields key = some (.list items) := by
    rw [Value.field] at h
    cases hfound : Keyed.find? fields key with
    | none =>
      rw [hfound] at h
      cases h
    | some v =>
      rw [hfound] at h
      exact congrArg some h
  have hlist := Keyed.sizeOf_lt_of_find? hfound
  simp only [Value.list.sizeOf_spec, Value.record.sizeOf_spec] at hlist ⊢
  omega

/-- Reading an item of a list of sources. What is no source is a literal of any type. -/
def Source.readItem (item : Value) (path : String) (index : Nat) : Except ReadError Source :=
  if (item.field? "type").isSome then Source.read item s!"{path}.value[{index}]"
  else .ok (.literal item .any)

theorem Source.readItems_cons (item : Value) (rest : List Value) (path : String) (index : Nat) :
    Source.readItems (item :: rest) path index = do
      let source ← Source.readItem item path index
      let sources ← Source.readItems rest path (index + 1)
      return source :: sources := by
  rw [Source.readItems, Source.readItem]
  split_ifs <;> rfl

namespace Step

variable {raw : Value} {stepId path : String}

/-! ### Arguments and codes -/

theorem exists_iterated_of_isCollection (h : raw.isCollection = true) :
    ∃ raws, iterated raw = .ok raws := by
  cases raw with
  | list | text | record => exact ⟨_, rfl⟩
  | _ => exact nomatch h

theorem exists_fault_of_iterated (h : raw.isCollection = false) :
    ∃ f, iterated raw = .error f := by
  cases raw with
  | list | text | record => exact nomatch h
  | _ => exact ⟨_, rfl⟩

/-- The faults of a whole part that are not turned into a refusal are those of numbers without
bounds. -/
theorem ends_toWhole (raw : Value) :
    Ends raw.toWhole (fun _ => True) fun f =>
      ¬(f.className = "TypeError" ∨ f.className = "ValueError") → raw.isUnbounded = true := by
  rw [Value.toWhole.eq_def]
  split
  case h_4 | h_7 => exact fun _ => rfl
  case h_5 | h_8 | h_10 => simp [Fault.className]
  case h_6 negative coefficient exponent =>
    split_ifs with houtgrows
    · exact fun _ => houtgrows
    · trivial
  case h_9 s =>
    refine (Value.ends_wholeOfText s).mono (fun _ _ => trivial) fun f hvalue hother => ?_
    exact absurd (.inr hvalue) hother
  all_goals trivial

theorem ends_readCode (h : raw.isUnbounded = false) :
    Ends (readCode raw stepId) (fun _ => True) RuleError.IsRefusal := by
  have hwhole := ends_toWhole raw
  rw [readCode]
  split_ifs
  · trivial
  · split
    next => trivial
    next f hf =>
      split_ifs with hclass
      · exact ⟨_, rfl⟩
      · exact nomatch h.symm.trans (hwhole.of_error hf hclass)

theorem exists_fault_of_readCode (stepId : String) (h : raw.isUnbounded = true) :
    ∃ f, readCode raw stepId = .error (.fault f) := by
  cases raw with
  | float x =>
    cases x with
    | infinite negative => exact ⟨.infiniteDouble, rfl⟩
    | _ => exact nomatch h
  | decimal d =>
    cases d with
    | finite negative coefficient exponent =>
      have houtgrows : Value.outgrowsMemory coefficient exponent = true := h
      refine ⟨.outOfMemory, ?_⟩
      simp [readCode, Value.isAbsent, Value.toWhole, houtgrows, Fault.className]
    | infinite negative => exact ⟨.infiniteDecimal, rfl⟩
    | nan negative signaling payload => exact nomatch h
  | _ => exact nomatch h

/-! ### Calls and outputs -/

/-- What names the function of a call, unread. -/
def functionName (function : Value) : Value :=
  (function.either "id" "name").orElse (function.field "functionName")

/-- The arguments of a call, unread. -/
def argumentList (function : Value) : Value :=
  (function.field "inputParams").orElse (.list [])

/-- **A call that trips**: it is read up to its arguments, which are not in parts. -/
def TripsAtArguments (raw : Value) : Prop :=
  (raw.field "outputVariableName").truthy = true ∧
    ∃ fields, raw.field "subFunction" = .record fields ∧
      (functionName (.record fields)).truthy = true ∧
      (argumentList (.record fields)).isCollection = false

/-- The word for the kind of an outcome. -/
def responseWord (data : Value) : String :=
  Text.lower ((data.field "responseType").orElse (.text "success")).display

set_option maxRecDepth 10000 in
theorem lower_success : Text.lower "success" = "success" := by decide

/-- An outcome without a kind is a success. -/
theorem responseWord_of_not_truthy {data : Value}
    (h : (data.field "responseType").truthy = false) : responseWord data = "success" := by
  rw [responseWord, Value.orElse, h]
  exact lower_success

/-- Reading the data of an output. -/
def readData (data : Value) (stepId path : String) : Except RuleError Action :=
  if responseWord data = "success" then
    ((Source.read data s!"{path}.data").mapError .read).map fun value => .output (.success value)
  else if responseWord data = "error" ∨ responseWord data = "failure" then do
    let code ← readCode (data.field "errorCode") stepId
    let message ←
      (readMessage (data.field "errorMessage") s!"{path}.data.errorMessage").mapError .read
    return .output (.failure code message)
  else .error (.read (.unknownResponse (data.field "responseType") stepId))

theorem readOutput_eq (raw : Value) (stepId path : String) :
    readOutput raw stepId path =
      match raw.either "data" "output_data" with
      | .record fields => readData (outputData (.record fields)) stepId path
      | _ => .error (.read (.outputWithoutData stepId)) := rfl

/-- **An output that trips**: it reports a failure with a code without bounds. -/
def TripsAtCode (raw : Value) : Prop :=
  ∃ fields, raw.either "data" "output_data" = .record fields ∧
    (responseWord (outputData (.record fields)) = "error" ∨
      responseWord (outputData (.record fields)) = "failure") ∧
    ((outputData (.record fields)).field "errorCode").isUnbounded = true

variable {next : Value}

theorem ends_readCall (h : ¬TripsAtArguments raw) :
    Ends (readCall raw next stepId path) (fun _ => True) RuleError.IsRefusal := by
  rw [readCall]
  dsimp only
  split_ifs with hresult
  · exact ⟨_, rfl⟩
  split
  next fields hfields =>
    split_ifs with hname
    · exact ⟨_, rfl⟩
    -- All that was looked at so far is as it should be, so the arguments must be in parts.
    have hcollection : (argumentList (.record fields)).isCollection = true := by
      by_contra hno
      refine h ⟨by simpa using hresult, fields, hfields, ?_, by simpa using hno⟩
      simpa [functionName] using hname
    obtain ⟨raws, hraws⟩ := exists_iterated_of_isCollection hcollection
    rw [argumentList] at hraws
    rw [hraws]
    refine Ends.ok_bind ?_
    refine Ends.bind (ends_mapM fun _ _ => ends_mapError_read _) fun _ _ => ?_
    exact (ends_mapError_read _).bind fun _ _ => trivial
  next => exact ⟨_, rfl⟩

theorem exists_fault_of_readCall (h : TripsAtArguments raw) :
    ∃ f, readCall raw next stepId path = .error (.fault f) := by
  obtain ⟨hresult, fields, hfields, hname, hcollection⟩ := h
  obtain ⟨f, hf⟩ := exists_fault_of_iterated hcollection
  rw [argumentList] at hf
  rw [functionName] at hname
  refine ⟨f, ?_⟩
  simp only [readCall, hresult, hfields, hname, hf]
  rfl

theorem ends_readOutput (h : ¬TripsAtCode raw) :
    Ends (readOutput raw stepId path) (fun _ => True) RuleError.IsRefusal := by
  rw [readOutput_eq]
  split
  next fields hfields =>
    rw [readData]
    split_ifs with hsuccess hfailure
    · exact (ends_mapError_read _).map fun _ _ => trivial
    · have hunbounded : ((outputData (.record fields)).field "errorCode").isUnbounded = false := by
        by_contra hno
        exact h ⟨fields, hfields, hfailure, by simpa using hno⟩
      refine (ends_readCode hunbounded).bind fun _ _ => ?_
      exact (ends_mapError_read _).bind fun _ _ => trivial
    · exact ⟨_, rfl⟩
  next => exact ⟨_, rfl⟩

theorem exists_fault_of_readOutput (h : TripsAtCode raw) :
    ∃ f, readOutput raw stepId path = .error (.fault f) := by
  obtain ⟨fields, hfields, hword, hunbounded⟩ := h
  obtain ⟨f, hf⟩ := exists_fault_of_readCode stepId hunbounded
  have hsuccess : responseWord (outputData (.record fields)) ≠ "success" := by
    rcases hword with hword | hword
    · simp [hword]
    · simp [hword]
  refine ⟨f, ?_⟩
  rw [readOutput_eq, hfields]
  dsimp only
  rw [readData, if_neg hsuccess, if_pos hword, hf]
  rfl

/-! ### Steps -/

/-- **A step has an identifier.** -/
def Named (raw : Value) : Prop :=
  ¬((raw.field "id").isNull = true ∨ (raw.field "id").display.isEmpty = true)

theorem named_of_text {id : String} (h : raw.field "id" = .text id) (hid : id.isEmpty = false) :
    Named raw := by
  rw [Named, h]
  simp [Value.isNull, Value.display, hid]

/-- **A step that reading trips over**: it has an identifier, and is a call or an output that
trips. -/
def Trips (raw : Value) : Prop :=
  Named raw ∧
    (raw.field "type" = .text "subFunction" ∧ TripsAtArguments raw ∨
      raw.field "type" = .text "output" ∧ TripsAtCode raw)

/-- **A step that does not trip** is read or refused. -/
theorem ends_read (h : ¬Trips raw) :
    Ends (read raw path) (fun _ => True) RuleError.IsRefusal := by
  rw [read.eq_def]
  split
  next fields =>
    dsimp only
    split
    next => exact ⟨_, rfl⟩
    next hid =>
      split
      next hkind =>
        refine Ends.bind (ends_readCall fun htrips => ?_) fun _ _ => trivial
        exact h ⟨hid, .inl ⟨hkind, htrips⟩⟩
      next => exact (ends_mapError_read _).bind fun _ _ => trivial
      next hkind =>
        refine Ends.bind (ends_readOutput fun htrips => ?_) fun _ _ => trivial
        exact h ⟨hid, .inr ⟨hkind, htrips⟩⟩
      next => exact ⟨_, rfl⟩
  next => exact ⟨_, rfl⟩

/-- **A step that trips** is neither read nor refused. -/
theorem Trips.exists_read_eq (h : Trips raw) (path : String) :
    ∃ f, read raw path = .error (.fault f) := by
  obtain ⟨hid, haction⟩ := h
  cases raw with
  | record fields =>
    rw [read]
    dsimp only
    rw [if_neg hid]
    rcases haction with ⟨hkind, htrips⟩ | ⟨hkind, htrips⟩
    · obtain ⟨f, hf⟩ := exists_fault_of_readCall htrips
      refine ⟨f, ?_⟩
      rw [hkind, hf]
      rfl
    · obtain ⟨f, hf⟩ := exists_fault_of_readOutput htrips
      refine ⟨f, ?_⟩
      rw [hkind, hf]
      rfl
  | _ => exact absurd (.inl rfl) hid

end Step

/-! ### Rules -/

namespace Rule

variable {document : Value} {mostSteps : Option Int} {inputs steps : List Value}

/-- **The record that holds inputs and steps**: the document, or its function if it has one. -/
def body (document : Value) : Value :=
  match document.field "ruleFunction" with
  | .record inner => .record inner
  | _ => document

/-- **A document has an identifier.** -/
def Named (document : Value) : Prop :=
  ¬((document.either "ruleId" "id").isNull = true ∨
    (Text.trim (document.either "ruleId" "id").display).isEmpty = true)

theorem named_of_text {id : String} (h : document.either "ruleId" "id" = .text id)
    (hid : (Text.trim id).isEmpty = false) : Named document := by
  rw [Named, h]
  simp [Value.isNull, Value.display, hid]

/-- **A document opens**: it has an identifier, and lists of inputs and steps, of which there are no
more than allowed. -/
structure Opens (document : Value) (mostSteps : Option Int) (inputs steps : List Value) :
    Prop where
  /-- There is an identifier. -/
  named : Named document
  /-- The inputs are a list. -/
  inputList : ((body document).field "inputParams").orElse (.list []) = .list inputs
  /-- The steps are a list. -/
  stepList : ((body document).field "steps").orElse (.list []) = .list steps
  /-- There are no more steps than allowed. -/
  bounded : ∀ most ∈ mostSteps, (steps.length : Int) ≤ most

/-- The inputs of a document that has opened, read one by one. -/
def readInputs (inputs : List Value) : Except RuleError (List InputDecl) :=
  inputs.zipIdx.mapM fun (raw, i) =>
    (InputDecl.read raw s!"$.inputParams[{i}]").mapError .read

/-- The steps of a document that has opened, read one by one. -/
def readSteps (steps : List Value) : Except RuleError (List Step) :=
  steps.zipIdx.mapM fun (raw, i) => Step.read raw s!"$.steps[{i}]"

theorem listOf_eq_ok {body : Value} {key : String} (refusal : ReadError) {items : List Value} :
    listOf body key refusal = .ok items ↔ (body.field key).orElse (.list []) = .list items := by
  rw [listOf]
  split
  next items' hitems => simp [hitems]
  next hother => exact ⟨(nomatch ·), fun h => absurd h (hother items)⟩

/-- The rule that a document holds, put together from its inputs and steps. -/
def assembled (document : Value) (inputs : List InputDecl) (steps : List Step) : Rule :=
  let id := (document.either "ruleId" "id").display
  let entry := document.field "entry"
  { id
    name := ((document.field "name").orElse (.text id)).display
    inputs
    steps
    entry := if entry.isNull then none else some entry.display }

/-- **Reading a document that has an identifier**: its lists are taken out of it, the steps are
counted, and then inputs and steps are read. -/
theorem read_of_named (h : Named document) :
    read document mostSteps = do
      let id := (document.either "ruleId" "id").display
      let inputs ← (listOf (body document) "inputParams" (.inputsNotList id)).mapError .read
      let steps ← (listOf (body document) "steps" (.stepsNotList id)).mapError .read
      match mostSteps.filter fun most => decide (most < (steps.length : Int)) with
      | some most => .error (.read (.tooManySteps id steps.length most))
      | none => do
        let inputs ← readInputs inputs
        let steps ← readSteps steps
        return assembled document inputs steps := by
  cases document with
  | record fields =>
    rw [read]
    dsimp only
    rw [if_neg h]
    rfl
  | _ => exact absurd (.inl rfl) h

/-- Whether the number of steps is within its bound. -/
theorem filter_eq_none_iff {count : Nat} :
    (mostSteps.filter fun most => decide (most < (count : Int))) = none ↔
      ∀ most ∈ mostSteps, (count : Int) ≤ most := by
  simp

/-- A document that opens is read by its inputs and steps. -/
theorem read_of_opens (h : Opens document mostSteps inputs steps) :
    read document mostSteps = do
      let inputs ← readInputs inputs
      let steps ← readSteps steps
      return assembled document inputs steps := by
  have hinputs := fun refusal => (listOf_eq_ok refusal).mpr h.inputList
  have hsteps := fun refusal => (listOf_eq_ok refusal).mpr h.stepList
  rw [read_of_named h.named]
  dsimp only
  rw [hinputs, hsteps]
  simp only [Except.mapError, bind, Except.bind, filter_eq_none_iff.mpr h.bounded]

/-- A document that does not open is refused. -/
theorem exists_refusal_of_not_opens (h : ∀ inputs steps, ¬Opens document mostSteps inputs steps) :
    ∃ refusal, read document mostSteps = .error (.read refusal) := by
  by_cases hnamed : Named document
  · rw [read_of_named hnamed]
    dsimp only
    cases hinputs : listOf (body document) "inputParams"
        (.inputsNotList (document.either "ruleId" "id").display) with
    | error refusal => exact ⟨refusal, rfl⟩
    | ok inputs =>
      cases hsteps : listOf (body document) "steps"
          (.stepsNotList (document.either "ruleId" "id").display) with
      | error refusal => exact ⟨refusal, rfl⟩
      | ok steps =>
        cases hfilter : mostSteps.filter fun most => decide (most < (steps.length : Int)) with
        | some most =>
          refine ⟨.tooManySteps (document.either "ruleId" "id").display steps.length most, ?_⟩
          simp only [Except.mapError, bind, Except.bind, hfilter]
        | none =>
          refine absurd ?_ (h inputs steps)
          exact ⟨hnamed, (listOf_eq_ok _).mp hinputs, (listOf_eq_ok _).mp hsteps,
            filter_eq_none_iff.mp hfilter⟩
  · cases document with
    | record fields =>
      refine ⟨.noRuleId (Keyed.keys fields), ?_⟩
      rw [read]
      exact if_pos (not_not.mp hnamed)
    | _ => exact ⟨_, rfl⟩

theorem exists_refusal_of_not_named (h : ¬Named document) (mostSteps : Option Int) :
    ∃ refusal, read document mostSteps = .error (.read refusal) :=
  exists_refusal_of_not_opens fun _ _ hopens => h hopens.named

/-- **A document that reading trips over**: it opens, its inputs are read, and so are its steps up
to one that reading trips over. -/
def Trips (document : Value) (mostSteps : Option Int) : Prop :=
  ∃ inputs steps, Opens document mostSteps inputs steps ∧
    (∃ declarations, readInputs inputs = .ok declarations) ∧
    ∃ (i : Nat) (raw : Value), steps[i]? = some raw ∧ Step.Trips raw ∧
      ∀ j < i, ∀ before, steps[j]? = some before →
        ∃ s, Step.read before s!"$.steps[{j}]" = .ok s

theorem ends_readInputs (inputs : List Value) :
    Ends (readInputs inputs) (fun _ => True) RuleError.IsRefusal :=
  ends_mapM fun _ _ => ends_mapError_read _

/-- Steps that are read up to one that reading trips over. -/
theorem readSteps_eq_fault_of_trips {i : Nat} {raw : Value} (hraw : steps[i]? = some raw)
    (htrips : Step.Trips raw)
    (hbefore : ∀ j < i, ∀ before, steps[j]? = some before →
      ∃ s, Step.read before s!"$.steps[{j}]" = .ok s) :
    ∃ f, readSteps steps = .error (.fault f) := by
  obtain ⟨f, hf⟩ := htrips.exists_read_eq s!"$.steps[{i}]"
  refine ⟨f, mapM_eq_error_of_first (i := i) (x := (raw, i)) (by simp [hraw]) hf ?_⟩
  rintro j hj ⟨before, j'⟩ hbefore'
  obtain ⟨hfound, rfl⟩ : steps[j]? = some before ∧ j = j' := by simpa using hbefore'
  exact hbefore j hj before hfound

/-- **A document that trips** is neither read nor refused. -/
theorem Trips.exists_read_eq (h : Trips document mostSteps) :
    ∃ f, read document mostSteps = .error (.fault f) := by
  obtain ⟨inputs, steps, hopens, ⟨declarations, hdeclarations⟩, i, raw, hraw, htrips, hbefore⟩ := h
  obtain ⟨f, hf⟩ := readSteps_eq_fault_of_trips hraw htrips hbefore
  refine ⟨f, ?_⟩
  rw [read_of_opens hopens, hdeclarations, hf]
  rfl

/-- **A document that does not trip** is read or refused. -/
theorem ends_read (h : ¬Trips document mostSteps) :
    Ends (read document mostSteps) (fun _ => True) RuleError.IsRefusal := by
  by_cases hopens : ∃ inputs steps, Opens document mostSteps inputs steps
  · obtain ⟨inputs, steps, hopens⟩ := hopens
    rw [read_of_opens hopens]
    cases hinputs : readInputs inputs with
    | error e => exact (ends_readInputs inputs).of_error hinputs
    | ok declarations =>
      refine Ends.ok_bind ?_
      cases hsteps : readSteps steps with
      | ok _ => trivial
      | error e =>
        -- The error is that of the first step that is not read, and this step does not trip.
        obtain ⟨i, ⟨raw, j⟩, hraw, he, hbefore⟩ := exists_first_of_mapM_eq_error hsteps
        obtain ⟨hfound, rfl⟩ : steps[i]? = some raw ∧ i = j := by simpa using hraw
        refine (Step.ends_read fun htrips => h ?_).of_error he
        refine ⟨inputs, steps, hopens, ⟨declarations, hinputs⟩, i, raw, hfound, htrips, ?_⟩
        intro j hj before hbefore'
        exact hbefore j hj (before, j) (by simp [hbefore'])
  · obtain ⟨refusal, hrefusal⟩ := exists_refusal_of_not_opens fun inputs steps h =>
      hopens ⟨inputs, steps, h⟩
    rw [hrefusal]
    exact ⟨refusal, rfl⟩

/-- **Reading is closed, unless it trips.** Any value at all, with any bound on its steps, is read
as a rule or refused as one that is none, exactly if reading does not trip over it: over a call
whose arguments are not in parts, or over a failure with a code without bounds. -/
theorem read_closed_iff (document : Value) (mostSteps : Option Int) :
    ((∃ r, read document mostSteps = .ok r) ∨
      ∃ e, read document mostSteps = .error e ∧ e.kind? = some .validation) ↔
      ¬Trips document mostSteps := by
  constructor
  · rintro hclosed htrips
    obtain ⟨f, hf⟩ := htrips.exists_read_eq
    rw [hf] at hclosed
    rcases hclosed with ⟨r, hr⟩ | ⟨e, he, hkind⟩
    · exact nomatch hr
    · obtain rfl := Except.error.inj he
      exact nomatch hkind
  · intro hnot
    have hends := ends_read hnot
    cases hread : read document mostSteps with
    | ok r => exact .inl ⟨r, rfl⟩
    | error e =>
      obtain ⟨refusal, rfl⟩ : e.IsRefusal := hends.of_error hread
      exact .inr ⟨_, rfl, rfl⟩

end Rule

/-! ### Documents that are neither read nor refused -/

/-- A document whose only step reports a failure with an infinite code. -/
def infiniteCode : Value :=
  .record [("id", .text "r"), ("steps", .list [.record [("id", .text "s"),
    ("type", .text "output"),
    ("data", .record [("responseType", .text "error"), ("errorCode", .float (.infinite false))])]])]

/-- A document whose only step is a call with a number in place of arguments. -/
def numberOfArguments : Value :=
  .record [("id", .text "r"), ("steps", .list [.record [("id", .text "s"),
    ("type", .text "subFunction"), ("outputVariableName", .text "v"),
    ("subFunction", .record [("name", .text "NUM_ADD"), ("inputParams", .int 1)])]])]

set_option maxRecDepth 10000 in
/-- **Two documents that are neither read nor refused.** -/
theorem Rule.read_not_closed :
    Rule.read infiniteCode = .error (.fault .infiniteDouble) ∧
      Rule.read numberOfArguments = .error (.fault (.misused "'int' object is not iterable")) :=
  ⟨rfl, rfl⟩

end RuleFlow
