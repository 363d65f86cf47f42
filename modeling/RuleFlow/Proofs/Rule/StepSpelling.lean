import RuleFlow.Proofs.Rule.StepOrder

/-!
# Steps in the older spelling

A step in the current spelling may be rewritten to the older one: the target under `next_step`, the
targets of a branch under `onTrue` and `onFalse`, the sides of a condition and the data of an output
spread over keys of their own. Any of these may be done, in any of the places.

## Absent and empty

Each older key is looked for in its own way: where the current one is absent, where it holds
nothing, or where it counts as false. The relations below say how much has to be free for a key to
be rewritten; what is not rewritten is kept as it is.

The data of an output are special. They are taken for older data if there is a `data_type` among
them. A success needs one, but a failure does not, and without it the older keys are not read at
all. `RuleFlow.Step.Recognised` says that this is not so.

* `RuleFlow.Step.Respelled` relates a step to one that is rewritten.
* `RuleFlow.Step.readCall_respelled`, `RuleFlow.Step.readBranch_respelled` and
  `RuleFlow.Step.readOutput_respelled` read the two alike, and `RuleFlow.Step.read_respelled` is the
  result.
-/

namespace RuleFlow

variable {ε α : Type} {v w raw raw' next next' data data' : Value}
  {R : Value → Value → Prop} {key old name stepId path : String}
  {fields fields' : List (String × Value)}

/-! ### Outcomes -/

/-- **Two readings have one outcome**: they are the same, or both are refusals. -/
abbrev OneOutcome (x y : Except RuleError α) : Prop :=
  EndAlike x y Eq fun e d => e = d ∨ e.IsRefusal ∧ d.IsRefusal

namespace OneOutcome

theorem of_eq {x y : Except RuleError α} (h : y = x) : OneOutcome x y := by
  subst h
  cases y with
  | ok a => rfl
  | error e => exact .inl rfl

theorem of_refused {x y : Except RuleError α} (hx : ∃ refusal, x = .error (.read refusal))
    (hy : ∃ refusal, y = .error (.read refusal)) : OneOutcome x y := by
  obtain ⟨refusal, rfl⟩ := hx
  obtain ⟨refusal', rfl⟩ := hy
  exact .inr ⟨⟨refusal, rfl⟩, refusal', rfl⟩

theorem eq_or_refused {x y : Except RuleError α} (h : OneOutcome x y) :
    y = x ∨ (∃ refusal, x = .error (.read refusal)) ∧ ∃ refusal, y = .error (.read refusal) := by
  obtain ⟨a, b, rfl, rfl, rfl⟩ | ⟨e, d, rfl, rfl, hed⟩ := h.outcome
  · exact .inl rfl
  · rcases hed with rfl | ⟨⟨refusal, rfl⟩, refusal', rfl⟩
    · exact .inl rfl
    · exact .inr ⟨⟨refusal, rfl⟩, refusal', rfl⟩

end OneOutcome

/-! ### Rewriting the keys of a record -/

namespace Value

/-- **Two records hold the same at all other keys.** -/
def SameBeyond (keys : List String) (v w : Value) : Prop :=
  ∀ key, key ∉ keys → w.field key = v.field key

/-- **A key is kept or renamed**, and what stands there is rewritten. -/
inductive Renames (R : Value → Value → Prop) (key old : String) (v w : Value) : Prop where
  /-- The key is kept. -/
  | kept (hvalue : Option.Rel R (v.field? key) (w.field? key)) (hold : w.field old = v.field old)
  /-- The older key was free and takes its place. -/
  | renamed (hfree : v.field old = .null) (hgone : w.field? key = none)
      (hvalue : R (v.field key) (w.field old))

/-- **What stands at keys of a record stands at the older keys of another one.** -/
def Spread (keys : List (String × String)) (v w : Value) : Prop :=
  ∀ pair ∈ keys, w.field pair.2 = v.field pair.1

/-- **A value is kept, or a record is rewritten.** -/
inductive InRecord (R : Value → Value → Prop) : Value → Value → Prop where
  /-- The value is kept. -/
  | same (v : Value) : InRecord R v v
  /-- The record is rewritten. -/
  | record {fields fields' : List (String × Value)} (h : R (.record fields) (.record fields')) :
    InRecord R (.record fields) (.record fields')

/-- **A value is kept, or a list is rewritten item by item.** -/
inductive InList (R : Value → Value → Prop) : Value → Value → Prop where
  /-- The value is kept. -/
  | same (v : Value) : InList R v v
  /-- The list is rewritten. -/
  | list {items items' : List Value} (h : List.Forall₂ R items items') :
    InList R (.list items) (.list items')

theorem InRecord.isNull_eq (h : InRecord R v w) : w.isNull = v.isNull := by
  cases h with
  | same => rfl
  | record => rfl

theorem orElse_orElse (v w : Value) : (v.orElse w).orElse w = v.orElse w := by
  rw [orElse, orElse]
  split_ifs <;> rfl

theorem field_eq_getD (v : Value) (key : String) : v.field key = (v.field? key).getD .null := by
  cases v <;> rfl

end Value

open Value (SameBeyond Renames Spread InRecord InList)

/-- **Two lists, item by item, with their places**, where the items come to the same. -/
theorem mapM_zipIdx_eq_of_forall₂ {f : Value × Nat → Except ε α} {items items' : List Value}
    (h : List.Forall₂ R items items') (hitem : ∀ v w i, R v w → f (w, i) = f (v, i))
    (index : Nat) : (items'.zipIdx index).mapM f = (items.zipIdx index).mapM f := by
  induction h generalizing index with
  | nil => rfl
  | cons hvw _ ih => simp only [List.zipIdx_cons, List.mapM_cons, hitem _ _ _ hvw, ih]

namespace Step

/-! ### Targets -/

/-- **The targets of a branch are rewritten.** -/
structure TargetsRespelled (next next' : Value) : Prop where
  /-- The target where the conditions hold. -/
  onTrue : Renames Eq "true" "onTrue" next next'
  /-- The target where they do not hold. -/
  onFalse : Renames Eq "false" "onFalse" next next'

/-- **A target of a branch** is found under either key. -/
theorem getD_of_renames (h : Renames Eq key old v w) :
    (w.field? key).getD (w.field old) = (v.field? key).getD (v.field old) := by
  cases h with
  | kept hvalue hold => exact (getD_of_rel hvalue hold.symm).symm
  | renamed hfree hgone hvalue =>
    rw [hgone, hfree, ← hvalue, Value.field_eq_getD v key]
    rfl

theorem branchTargets_respelled (h : InRecord TargetsRespelled next next') (stepId : String) :
    branchTargets next' stepId = branchTargets next stepId := by
  cases h with
  | same => rfl
  | record h =>
    exact congrArg₂ (fun onTrue onFalse => Except.ok (onTrue, onFalse))
      (getD_of_renames h.onTrue) (getD_of_renames h.onFalse)

/-- A record is no target of a call, in either spelling. -/
theorem readTarget_respelled (h : InRecord R next next') (stepId label : String) :
    readTarget next' stepId label = readTarget next stepId label := by
  cases h with
  | same => rfl
  | record => rfl

/-- **What follows a step** is found under either key. -/
theorem nextOf_respelled (h : Renames (InRecord R) "next" "next_step" raw raw') :
    InRecord R (nextOf raw) (nextOf raw') := by
  rw [nextOf, nextOf]
  cases h with
  | kept hvalue hold =>
    have hnext : InRecord R (raw.field "next") (raw'.field "next") := by
      rw [Value.field_eq_getD raw, Value.field_eq_getD raw']
      exact getD_of_rel hvalue (.same _)
    rw [hold, hnext.isNull_eq]
    split_ifs
    · exact .same _
    · exact hnext
  | renamed hfree hgone hvalue =>
    rw [Value.field_eq_getD raw' "next", hgone, hfree]
    cases hnull : raw.field "next" with
    | null => rwa [hnull] at hvalue
    | _ => rwa [hnull] at hvalue

/-! ### Conditions -/

/-- The keys of one side of a condition, and the older keys for them. -/
def sideKeys (name : String) : List (String × String) :=
  [("type", name ++ "_type"), ("value", name ++ "_value"), ("dataType", name ++ "_data_type")]

/-- All keys of one side of a condition. -/
def sidePlaces (name : String) : List String :=
  name :: (sideKeys name).map (·.2)

/-- **One side of a condition is rewritten.** -/
inductive SideRespelled (name : String) (raw raw' : Value) : Prop where
  /-- The side is kept. -/
  | kept (hside : raw'.field name = raw.field name)
      (hparts : ∀ pair ∈ sideKeys name, raw'.field pair.2 = raw.field pair.2)
  /-- The older keys were free and hold the parts of the side. -/
  | spread {fields : List (String × Value)}
      (hfree : ∀ pair ∈ sideKeys name, raw.field pair.2 = .null)
      (hside : raw.field name = .record fields) (hgone : raw'.field name = .null)
      (hparts : Spread (sideKeys name) (.record fields) raw')

/-- **A side of a condition** is the same source in either spelling. -/
theorem read_side_respelled (h : SideRespelled name raw raw') (path : String) :
    Source.read (side raw' name) path = Source.read (side raw name) path := by
  cases h with
  | kept hside hparts =>
    simp only [sideKeys, List.forall_mem_cons] at hparts
    obtain ⟨htype, hvalue, hdata, -⟩ := hparts
    rw [side, side, hside, htype, hvalue, hdata]
  | @spread fields hfree hside hgone hparts =>
    simp only [sideKeys, Spread, List.forall_mem_cons] at hparts hfree
    obtain ⟨htype, hvalue, hdata, -⟩ := hparts
    obtain ⟨htype', hvalue', hdata', -⟩ := hfree
    rw [side, side, hside, hgone, htype, hvalue, hdata, htype', hvalue', hdata']
    -- An empty record has no parts, and no more have the older keys that were free.
    cases fields with
    | nil => rfl
    | cons entry rest =>
      exact (Source.read_record _ path).trans (Source.read_record (entry :: rest) path).symm

/-- **A condition is rewritten.** -/
structure ConditionRespelled (raw raw' : Value) : Prop where
  /-- All but the sides is kept. -/
  others : SameBeyond (sidePlaces "lhs" ++ sidePlaces "rhs") raw raw'
  /-- The left side. -/
  lhs : SideRespelled "lhs" raw raw'
  /-- The right side. -/
  rhs : SideRespelled "rhs" raw raw'

/-- **A condition** is the same in either spelling. -/
theorem readCondition_respelled (h : InRecord ConditionRespelled raw raw') (index : Nat)
    (path : String) : readCondition raw' index path = readCondition raw index path := by
  cases h with
  | same => rfl
  | record h =>
    have hcombinator := h.others "combinator" (by decide)
    have hoperator := h.others "operator" (by decide)
    simp only [readCondition, readCombinator, hcombinator, hoperator, read_side_respelled h.lhs,
      read_side_respelled h.rhs]

/-! ### Outputs -/

/-- The keys of the data of an output, and the older keys for them. -/
def outputKeys : List (String × String) :=
  [("type", "data_type"), ("value", "data_value"), ("dataType", "data_value_type"),
    ("responseType", "response_type"), ("errorCode", "error_code"),
    ("errorMessage", "error_message")]

/-- **The data of an output are rewritten.** -/
structure DataRespelled (data data' : Value) : Prop where
  /-- The data are in the current spelling. -/
  current : data.field? "data_type" = none
  /-- The older keys hold their parts. -/
  parts : Spread outputKeys data data'
  /-- The current keys are gone. -/
  gone : ∀ pair ∈ outputKeys, data'.field pair.1 = .null
  /-- The message is nothing or a text, or else counts as true, as a record does that is not
  empty. -/
  message : (data.field "errorMessage").isAbsent = true ∨ (data.field "errorMessage").truthy = true

/-- **The data of an output are kept, or moved** under the older key. -/
inductive OutputRespelled (raw raw' : Value) : Prop where
  /-- The data are kept. -/
  | kept (h : ∀ key ∈ ["data", "output_data"], raw'.field key = raw.field key)
  /-- The older key was free and holds the rewritten data. -/
  | moved {fields fields' : List (String × Value)} (hfree : raw.field "output_data" = .null)
      (hdata : raw.field "data" = .record fields) (hgone : raw'.field "data" = .null)
      (hdata' : raw'.field "output_data" = .record fields')
      (hparts : DataRespelled (.record fields) (.record fields'))

/-- **The kind of an outcome that is a failure**, as it is written. -/
def TellsFailure (response : Value) : Prop :=
  Text.lower (response.orElse (.text "success")).display ∈ ["error", "failure"]

/-- **An output with older data is recognised**: if it is a failure, its data have a `data_type`,
although it needs none. -/
def Recognised (raw : Value) : Prop :=
  TellsFailure ((raw.field "output_data").field "response_type") →
    ((raw.field "output_data").field? "data_type").isSome = true

/-- Data without a kind of source are refused, unless they are those of a failure. -/
theorem exists_refusal_of_readData (stepId path : String)
    (htype : (Value.record fields).field "type" = .null)
    (hkind : ¬TellsFailure ((Value.record fields).field "responseType")) :
    ∃ refusal, readData (.record fields) stepId path = .error (.read refusal) := by
  have hfailure : ¬(responseWord (.record fields) = "error" ∨
      responseWord (.record fields) = "failure") := by
    simpa [TellsFailure, responseWord] using hkind
  rw [readData, if_neg hfailure]
  split_ifs
  · refine ⟨.unknownSource .null s!"{path}.data", ?_⟩
    rw [Source.read_record, htype]
    rfl
  · exact ⟨_, rfl⟩

theorem not_tellsFailure_null : ¬TellsFailure .null := by
  change Text.lower "success" ∉ ["error", "failure"]
  rw [lower_success]
  decide

/-- **A message** is the same in either spelling. -/
theorem readMessage_orElse (h : v.isAbsent = true ∨ v.truthy = true) (path : String) :
    readMessage (v.orElse (.text "")) path = readMessage v path := by
  rcases h with habsent | htruthy
  · cases v with
    | null => rfl
    | text s =>
      obtain rfl : s = "" := by simpa [Value.isAbsent] using habsent
      rfl
    | _ => cases habsent
  · rw [Value.orElse, if_pos htruthy]

/-- **What is read of the data of an output** are six of their fields, of which the kind of the
outcome may be filled in. -/
theorem readData_eq_of_fields
    (hkept : ∀ key ∈ ["type", "value", "dataType", "errorCode"],
      (Value.record fields').field key = (Value.record fields).field key)
    (hresponse : (Value.record fields').field "responseType" =
      ((Value.record fields).field "responseType").orElse (.text "success"))
    (hmessage : ∀ path, readMessage ((Value.record fields').field "errorMessage") path =
      readMessage ((Value.record fields).field "errorMessage") path) (stepId path : String) :
    readData (.record fields') stepId path = readData (.record fields) stepId path := by
  simp only [List.forall_mem_cons] at hkept
  obtain ⟨htype, hvalue, hdata, hcode, -⟩ := hkept
  have hword : responseWord (.record fields') = responseWord (.record fields) := by
    rw [responseWord, responseWord, hresponse, Value.orElse_orElse]
  have hsource (path : String) :
      Source.read (.record fields') path = Source.read (.record fields) path := by
    rw [Source.read_record, Source.read_record, htype, hvalue, hdata]
  rw [readData, readData, hword, hsource, hcode, hmessage]
  split_ifs with hsuccess hfailure
  · rfl
  · rfl
  · -- A kind of outcome that is refused is written, and it is told as it is.
    have htruthy : ((Value.record fields).field "responseType").truthy = true := by
      by_contra hfalse
      exact hsuccess (responseWord_of_not_truthy (by simpa using hfalse))
    rw [hresponse, Value.orElse, if_pos htruthy]

/-- **Older data that are recognised** are read as the current ones. -/
theorem readData_respelled (h : DataRespelled (.record fields) data')
    (hrecognised : (data'.field? "data_type").isSome = true) (stepId path : String) :
    readData (outputData data') stepId path = readData (.record fields) stepId path := by
  have hparts := h.parts
  simp only [outputKeys, Spread, List.forall_mem_cons] at hparts
  obtain ⟨htype, hvalue, hdata, hresponse, hcode, hmessage, -⟩ := hparts
  rw [outputData, if_pos hrecognised, htype, hvalue, hdata, hresponse, hcode, hmessage]
  refine readData_eq_of_fields ?_ ?_ ?_ stepId path
  · simp only [List.forall_mem_cons]
    exact ⟨rfl, rfl, rfl, rfl, by simp⟩
  · rfl
  · exact readMessage_orElse h.message

/-- **Older data that are not recognised** have none of the current keys, so they are refused. -/
theorem exists_refusal_of_not_recognised (h : DataRespelled data (.record fields'))
    (hrecognised : ((Value.record fields').field? "data_type").isSome = false)
    (stepId path : String) :
    ∃ refusal, readData (outputData (.record fields')) stepId path = .error (.read refusal) := by
  have hgone := h.gone
  simp only [outputKeys, List.forall_mem_cons] at hgone
  obtain ⟨htype, -, -, hresponse, -⟩ := hgone
  rw [outputData, hrecognised]
  refine exists_refusal_of_readData stepId path htype ?_
  rw [hresponse]
  exact not_tellsFailure_null

/-- **Data that are moved under the older key** come to the same. -/
theorem readOutput_moved (h : DataRespelled (.record fields) (.record fields'))
    (hrecognised : TellsFailure ((Value.record fields).field "responseType") →
      ((Value.record fields').field? "data_type").isSome = true)
    (hdata : raw.either "data" "output_data" = (Value.record fields).orElse .null)
    (hdata' : raw'.either "data" "output_data" = .record fields') (stepId path : String) :
    OneOutcome (readOutput raw stepId path) (readOutput raw' stepId path) := by
  have hcurrent : outputData (.record fields) = .record fields := by
    rw [outputData, h.current]
    rfl
  rw [readOutput_eq, readOutput_eq, hdata, hdata']
  dsimp only
  cases fields with
  | nil =>
    -- Empty data count as no data, under the current key. Under the older one they are a success
    -- without a source.
    refine .of_refused ⟨_, rfl⟩ ?_
    by_cases hsome : ((Value.record fields').field? "data_type").isSome = true
    · rw [readData_respelled h hsome]
      exact exists_refusal_of_readData stepId path rfl not_tellsFailure_null
    · exact exists_refusal_of_not_recognised h (by simpa using hsome) stepId path
  | cons entry rest =>
    change OneOutcome (readData (outputData (.record (entry :: rest))) stepId path) _
    rw [hcurrent]
    by_cases hsome : ((Value.record fields').field? "data_type").isSome = true
    · exact .of_eq (readData_respelled h hsome stepId path)
    · refine .of_refused ?_ (exists_refusal_of_not_recognised h (by simpa using hsome) stepId path)
      refine exists_refusal_of_readData stepId path ?_ fun hfailure => hsome (hrecognised hfailure)
      have htype := h.parts ("type", "data_type") (by simp [outputKeys])
      rw [Value.field_eq_getD _ "data_type"] at htype
      rw [← htype, Option.not_isSome_iff_eq_none.mp hsome]
      rfl

/-- **An output** comes to the same in either spelling, if it is recognised. -/
theorem readOutput_respelled (h : OutputRespelled raw raw') (hrecognised : Recognised raw')
    (stepId path : String) :
    OneOutcome (readOutput raw stepId path) (readOutput raw' stepId path) := by
  cases h with
  | kept h =>
    refine .of_eq ?_
    rw [readOutput_eq, readOutput_eq, Value.either, Value.either, h _ (by simp), h _ (by simp)]
  | @moved fields fields' hfree hdata hgone hdata' hparts =>
    refine readOutput_moved hparts ?_ ?_ ?_ stepId path
    · have hresponse := hparts.parts ("responseType", "response_type") (by simp [outputKeys])
      rw [Recognised, hdata', hresponse] at hrecognised
      exact hrecognised
    · rw [Value.either, hdata, hfree]
    · rw [Value.either, hgone, hdata']
      rfl

/-! ### Steps -/

/-- **A step is rewritten.** -/
structure Respelled (raw raw' : Value) : Prop where
  /-- What has one spelling is kept. -/
  others : SameBeyond ["next", "next_step", "conditions", "data", "output_data"] raw raw'
  /-- What follows. -/
  next : Renames (InRecord TargetsRespelled) "next" "next_step" raw raw'
  /-- The conditions. -/
  conditions : InList (InRecord ConditionRespelled) (raw.field "conditions")
    (raw'.field "conditions")
  /-- The data of an output. -/
  data : OutputRespelled raw raw'

/-- **A call** is the same in either spelling. -/
theorem readCall_respelled (h : Respelled raw raw') (hnext : InRecord R next next')
    (stepId path : String) : readCall raw' next' stepId path = readCall raw next stepId path := by
  have hresult := h.others "outputVariableName" (by decide)
  have hfunction := h.others "subFunction" (by decide)
  simp only [readCall_eq, hresult, hfunction, readTarget_respelled hnext]

/-- **A branch** is the same in either spelling. -/
theorem readBranch_respelled (h : Respelled raw raw')
    (hnext : InRecord TargetsRespelled next next') (stepId path : String) :
    readBranch raw' next' stepId path = readBranch raw next stepId path := by
  have hconditions := h.conditions
  have htargets := branchTargets_respelled hnext stepId
  rw [readBranch.eq_def, readBranch.eq_def, htargets]
  revert hconditions
  generalize raw.field "conditions" = conditions
  generalize raw'.field "conditions" = conditions'
  intro hconditions
  cases hconditions with
  | same => rfl
  | list hitems =>
    cases hitems with
    | nil => rfl
    | cons hfirst hrest =>
      dsimp only
      rw [mapM_zipIdx_eq_of_forall₂ (.cons hfirst hrest)
        (fun _ _ i h => readCondition_respelled h i s!"{path}.conditions[{i}]")]

/-- **A step** comes to the same in either spelling, if its output is recognised. -/
theorem read_respelled (h : InRecord Respelled raw raw') (hrecognised : Recognised raw')
    (path : String) : OneOutcome (read raw path) (read raw' path) := by
  cases h with
  | same => exact .of_eq rfl
  | @record fields fields' h =>
    have hid := h.others "id" (by decide)
    have hkind := h.others "type" (by decide)
    have hnext := nextOf_respelled h.next
    have hnamed : Named (.record fields') ↔ Named (.record fields) := by rw [Named, Named, hid]
    by_cases hid' : Named (.record fields)
    swap
    · exact .of_refused (exists_refusal_of_not_named hid' path)
        (exists_refusal_of_not_named (fun h' => hid' (hnamed.mp h')) path)
    rw [read_of_named hid', read_of_named (hnamed.mpr hid'), hid, hkind]
    dsimp only
    split
    next => exact .of_eq (by rw [readCall_respelled h hnext])
    next => exact .of_eq (by rw [readBranch_respelled h hnext])
    next =>
      refine (readOutput_respelled h.data hrecognised _ path).bind ?_
      rintro action _ rfl
      rfl
    next => exact .of_eq rfl

end Step

end RuleFlow
