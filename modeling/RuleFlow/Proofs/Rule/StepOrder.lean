import RuleFlow.Proofs.Rule.Words

/-!
# Reading steps in any order of keys

Declarations of inputs and steps are read alike from documents that differ in the order of keys.
Both are read or neither is. What is read is alike, literals aside, unless the text of a record
becomes part of the rule.

## Texts of records

Names are turned into texts, whatever they are, and so are the messages of failures. The text of a
record shows the order of its keys. So rules are shown to be alike only where the values whose texts
become part of the rule have one order.

* `RuleFlow.Step.texts` are those values of a step.
* `RuleFlow.InputDecl.read_alike` and `RuleFlow.Step.read_alike` are the results. A proposition
  `settled` stands for the assumption, so that whether a step is read is told without it.
-/

namespace RuleFlow

open Value (Reordered)

variable {raw raw' next next' : Value} {settled : Prop}

/-! ### Texts of a document -/

/-- The items of a list; other values have none. -/
def Value.items : Value → List Value
  | .list items => items
  | _ => []

theorem Value.items_of_orElse {v : Value} {items : List Value}
    (h : v.orElse (.list []) = .list items) : v.items = items := by
  rw [Value.orElse] at h
  split_ifs at h with htruthy
  · rw [h, Value.items]
  · obtain rfl := Value.list.inj h
    cases v with
    | list items =>
      rw [Value.items]
      simpa [Value.truthy] using htruthy
    | _ => rfl

namespace Step

/-- The values of a call whose texts become part of the rule. -/
def textsOfCall (raw : Value) : List Value :=
  raw.field "outputVariableName" :: functionName (raw.field "subFunction") ::
    (argumentList (raw.field "subFunction")).items.map fun argument =>
      argument.either "subFuncParamId" "name"

/-- The value of a message whose text becomes part of the rule, unless it is a source. -/
def textsOfMessage : Value → List Value
  | .record _ => []
  | message => [message]

/-- The values of an output whose texts become part of the rule. -/
def textsOfOutput (raw : Value) : List Value :=
  let data := outputData (raw.either "data" "output_data")
  if responseWord data = "success" then [] else textsOfMessage (data.field "errorMessage")

/-- **The values of a step whose texts become part of the rule.** -/
def texts (raw : Value) : List Value :=
  raw.field "id" ::
    match raw.field "type" with
    | .text "subFunction" => textsOfCall raw
    | .text "output" => textsOfOutput raw
    | _ => []

end Step

/-! ### Declarations and calls -/

theorem InputDecl.read_alike (h : Reordered raw raw') (path : String)
    (hname : settled → (raw.field "name").hasOneOrder = true) :
    GoAlike (InputDecl.read raw path) (InputDecl.read raw' path)
      (fun d d' => settled → d.Alike Reordered d') := by
  rw [InputDecl.read, InputDecl.read, (h.field "name").truthy_eq]
  split_ifs
  · trivial
  refine (DataType.read_alike (h.field "dataType") path).bind fun type type' htype => ?_
  refine (readFlag_alike (h.field "mandatory") path).bind fun mandatory mandatory' hmandatory => ?_
  intro hsettled
  exact ⟨(h.field "name").display_eq (hname hsettled), htype, hmandatory, h.field "default"⟩

namespace Step

theorem readArgument_alike (h : Reordered raw raw') (path : String)
    (hname : settled → (raw.either "subFuncParamId" "name").hasOneOrder = true) :
    GoAlike (readArgument raw path) (readArgument raw' path)
      (fun a a' => settled → a.Alike Reordered a') := by
  have hparameter : Reordered (raw.either "subFuncParamId" "name")
      (raw'.either "subFuncParamId" "name") := (h.field _).orElse (h.field _)
  have hdata := h.field? "data"
  rw [readArgument, readArgument]
  revert hdata
  generalize raw.field? "data" = data
  generalize raw'.field? "data" = data'
  rintro (hdata | _)
  · refine (Source.read_alike _ _ _ hdata).bind fun source source' hsource => ?_
    intro hsettled
    refine ⟨hsource, ?_⟩
    dsimp only
    rw [hparameter.truthy_eq, hparameter.display_eq (hname hsettled)]
  · trivial

/-- Reading the arguments of a call. -/
def readArguments (list : Value) (path : String) : Except RuleError (List Argument) := do
  let raws ← (iterated list).mapError .fault
  raws.zipIdx.mapM fun (raw, i) =>
    (readArgument raw s!"{path}.subFunction.inputParams[{i}]").mapError .read

theorem exists_error_of_readArguments (list : Value) (path : String) {first : Value}
    {rest : List Value} (h : iterated list = .ok (first :: rest)) (hfirst : first.isText = true) :
    ∃ e, readArguments list path = .error e := by
  cases first with
  | text s =>
    refine ⟨.read (.argumentWithoutData s!"{path}.subFunction.inputParams[{0}]"), ?_⟩
    rw [readArguments, h]
    rfl
  | _ => cases hfirst

/-- **The arguments of a call** are read alike. What is gone through in the place of a list are
texts, which are no arguments. -/
theorem readArguments_alike {list list' : Value} (h : Reordered list list') (path : String)
    (hnames : settled → ∀ argument ∈ list.items,
      (argument.either "subFuncParamId" "name").hasOneOrder = true) :
    GoAlike (readArguments list path) (readArguments list' path)
      (fun as as' => settled → List.Forall₂ (Argument.Alike Reordered) as as') := by
  rcases h.elim with ⟨hscalar, rfl⟩ | ⟨items, items', rfl, rfl, hitems⟩ |
    ⟨fields, fields', rfl, rfl, hfields⟩
  · cases list' with
    | text s =>
      -- A text is gone through character by character; only an empty one has no argument to refuse.
      cases hs : s.toList with
      | nil =>
        have hnone : readArguments (.text s) path = .ok [] := by
          rw [readArguments, iterated, hs]
          rfl
        rw [hnone]
        exact fun _ => .nil
      | cons c rest =>
        have hiterated : iterated (.text s) = .ok (.text (String.ofList [c]) ::
            rest.map fun c => .text (String.ofList [c])) := by
          rw [iterated, hs, List.map_cons]
        obtain ⟨e, he⟩ := exists_error_of_readArguments _ path hiterated rfl
        rw [he]
        trivial
    | list | record => cases hscalar
    | _ => trivial
  · have hmapM : GoAlike (readArguments (.list items) path) (readArguments (.list items') path)
        (List.Forall₂ fun a a' => settled → a.Alike Reordered a') := by
      refine endAlike_mapM_zipIdx hitems fun raw hraw raw' i hreordered => ?_
      exact (readArgument_alike hreordered _ fun hsettled => hnames hsettled raw hraw).mapError
        fun _ _ _ => trivial
    exact hmapM.mono (fun _ _ _ _ h hsettled => h.imp fun _ _ h => h hsettled) fun _ _ h => h
  · -- A record is gone through key by key; it does not matter which key comes first.
    cases fields with
    | nil =>
      obtain rfl := List.length_eq_zero_iff.mp hfields.length.symm
      exact fun _ => .nil
    | cons f rest =>
      cases fields' with
      | nil => exact absurd hfields.length (Nat.succ_ne_zero _)
      | cons f' rest' =>
        obtain ⟨e, he⟩ := exists_error_of_readArguments (.record (f :: rest)) path rfl rfl
        obtain ⟨d, hd⟩ := exists_error_of_readArguments (.record (f' :: rest')) path rfl rfl
        rw [he, hd]
        trivial

/-- **Reading a call**, by its parts. -/
theorem readCall_eq (raw next : Value) (stepId path : String) :
    readCall raw next stepId path =
      if (raw.field "outputVariableName").truthy then
        match raw.field "subFunction" with
        | .record fields =>
          if (functionName (.record fields)).truthy then do
            let arguments ← readArguments (argumentList (.record fields)) path
            let next ← (readTarget next stepId "next").mapError .read
            return .call (raw.field "outputVariableName").display
              (functionName (.record fields)).display arguments next
          else .error (.read (.functionNameless stepId))
        | _ => .error (.read (.callWithoutFunction stepId))
      else .error (.read (.callNameless stepId)) := by
  rw [readCall]
  dsimp only
  cases (raw.field "outputVariableName").truthy with
  | false => rfl
  | true =>
    cases raw.field "subFunction" with
    | record fields =>
      simp only [functionName, argumentList, readArguments, bind_assoc]
      cases (((Value.record fields).either "id" "name").orElse
        ((Value.record fields).field "functionName")).truthy <;> rfl
    | _ => rfl

/-- **A call** is read alike. -/
theorem readCall_alike (h : Reordered raw raw') (hnext : Reordered next next')
    (stepId stepId' path : String)
    (htexts : settled → ∀ v ∈ textsOfCall raw, v.hasOneOrder = true) :
    GoAlike (readCall raw next stepId path) (readCall raw' next' stepId' path)
      (fun a a' => settled → a.Alike Reordered a') := by
  have hresult := h.field "outputVariableName"
  have hfunction := h.field "subFunction"
  simp only [textsOfCall, List.forall_mem_cons, List.forall_mem_map] at htexts
  rw [readCall_eq, readCall_eq, hresult.truthy_eq]
  split_ifs
  swap
  · trivial
  revert hfunction htexts
  generalize raw.field "subFunction" = function
  generalize raw'.field "subFunction" = function'
  intro hfunction htexts
  -- What is called is a record, or the call is refused.
  rcases hfunction.elim with ⟨hscalar, rfl⟩ | ⟨_, _, rfl, rfl, -⟩ | ⟨fields, fields', rfl, rfl, -⟩
  · cases function' with
    | record => cases hscalar
    | _ => trivial
  · trivial
  · have hname : Reordered (functionName (.record fields)) (functionName (.record fields')) :=
      ((hfunction.field _).orElse (hfunction.field _)).orElse (hfunction.field _)
    have hlist : Reordered (argumentList (.record fields)) (argumentList (.record fields')) :=
      (hfunction.field _).orElse (.refl _)
    dsimp only
    rw [hname.truthy_eq]
    split_ifs
    · refine (readArguments_alike hlist path fun hs => (htexts hs).2.2).bind fun as as' has => ?_
      have htarget := readTarget_alike hnext stepId stepId' "next"
      refine (htarget.mapError fun _ _ _ => trivial).bind fun target target' htarget hsettled => ?_
      obtain ⟨hresult', hname', -⟩ := htexts hsettled
      exact ⟨hresult.display_eq hresult', hname.display_eq hname', has hsettled, htarget⟩
    · trivial

/-! ### Branches -/

/-- **One side of a condition** is the same up to the order of keys. -/
theorem side_reordered (h : Reordered raw raw') (name : String) :
    Reordered (side raw name) (side raw' name) := by
  refine (h.field name).orElse (.recordOf ?_)
  exact .cons ⟨rfl, h.field _⟩ (.cons ⟨rfl, h.field _⟩ (.cons ⟨rfl, h.field _⟩ .nil))

/-- **A condition** is read alike. -/
theorem readCondition_alike (h : Reordered raw raw') (index : Nat) (path : String) :
    GoAlike (readCondition raw index path) (readCondition raw' index path)
      (Condition.Alike Reordered) := by
  rcases h.elim with ⟨hscalar, rfl⟩ | ⟨_, _, rfl, rfl, -⟩ | ⟨fields, fields', rfl, rfl, -⟩
  · cases raw' with
    | record => cases hscalar
    | _ => trivial
  · trivial
  · have hlhs := Source.read_alike _ _ s!"{path}.lhs" (side_reordered h "lhs")
    have hrhs := Source.read_alike _ _ s!"{path}.rhs" (side_reordered h "rhs")
    have hoperator := Operator.read_alike (h.field "operator") s!"{path}.operator"
    rw [readCondition, readCondition]
    refine (readCombinator_alike h index path).bind fun combinator combinator' hcombinator => ?_
    refine hlhs.bind fun lhs lhs' hlhs => ?_
    refine hoperator.bind fun operator operator' hoperator => ?_
    refine hrhs.bind fun rhs rhs' hrhs => ?_
    exact ⟨hlhs, hoperator, hrhs, hcombinator⟩

theorem branchTargets_alike (h : Reordered next next') (stepId stepId' : String) :
    GoAlike (branchTargets next stepId) (branchTargets next' stepId')
      (fun targets targets' => Reordered targets.1 targets'.1 ∧
        Reordered targets.2 targets'.2) := by
  rcases h.elim with ⟨hscalar, rfl⟩ | ⟨_, _, rfl, rfl, -⟩ | ⟨fields, fields', rfl, rfl, hfields⟩
  · cases next' with
    | null => exact ⟨.refl _, .refl _⟩
    | record => cases hscalar
    | _ => trivial
  · trivial
  · have htarget : ∀ key old, Reordered
        ((Keyed.find? fields key).getD ((Keyed.find? fields old).getD .null))
        ((Keyed.find? fields' key).getD ((Keyed.find? fields' old).getD .null)) :=
      fun key old => getD_of_rel (hfields.find? key) (h.field old)
    exact ⟨htarget _ _, htarget _ _⟩

/-- **A branch** is read alike. -/
theorem readBranch_alike (h : Reordered raw raw') (hnext : Reordered next next')
    (stepId stepId' path : String) :
    GoAlike (readBranch raw next stepId path) (readBranch raw' next' stepId' path)
      (Action.Alike Reordered) := by
  have hconditions := h.field "conditions"
  rw [readBranch.eq_def, readBranch.eq_def]
  revert hconditions
  generalize raw.field "conditions" = conditions
  generalize raw'.field "conditions" = conditions'
  intro hconditions
  rcases hconditions.elim with ⟨hscalar, rfl⟩ | ⟨items, items', rfl, rfl, hitems⟩ |
    ⟨_, _, rfl, rfl, -⟩
  · cases conditions' with
    | list => cases hscalar
    | _ => trivial
  · cases hitems with
    | nil => trivial
    | cons hfirst hrest =>
      refine (endAlike_mapM_zipIdx (.cons hfirst hrest) fun raw _ raw' i hraw =>
        readCondition_alike hraw i _).bind fun conditions conditions' hconditions => ?_
      refine (branchTargets_alike hnext stepId stepId').bind fun targets targets' htargets => ?_
      refine (readTarget_alike htargets.1 stepId stepId' "true").bind fun _ _ hfirst => ?_
      refine (readTarget_alike htargets.2 stepId stepId' "false").bind fun _ _ hsecond => ?_
      exact ⟨hconditions, hfirst, hsecond⟩
  · trivial

/-! ### Outputs -/

/-- **The data of an output** are the same up to the order of keys. -/
theorem outputData_reordered (h : Reordered raw raw') :
    Reordered (outputData raw) (outputData raw') := by
  rw [outputData, outputData, isSome_eq_of_rel (h.field? "data_type")]
  split_ifs
  · refine .recordOf (.cons ⟨rfl, h.field _⟩ (.cons ⟨rfl, h.field _⟩ (.cons ⟨rfl, h.field _⟩
      (.cons ⟨rfl, ?_⟩ (.cons ⟨rfl, h.field _⟩ (.cons ⟨rfl, ?_⟩ .nil))))))
    · exact (h.field _).orElse (.refl _)
    · exact (h.field _).orElse (.refl _)
  · exact h

/-- **The kind of an outcome** is the same word, or no kind of an outcome. -/
theorem responseWord_alike (h : Reordered raw raw') :
    responseWord raw = responseWord raw' ∨
      ∀ word ∈ ["success", "error", "failure"],
        responseWord raw ≠ word ∧ responseWord raw' ≠ word := by
  have hword := (h.field "responseType").orElse (.refl (.text "success"))
  rw [responseWord, responseWord]
  rcases hword.eq_or_structured with heq | ⟨hv, hw⟩
  · rw [heq]
    exact .inl rfl
  · have hne : ∀ u : Value, u.isScalar = false → ∀ word ∈ ["success", "error", "failure"],
        Text.lower u.display ≠ word := by
      intro u hu word hmem
      refine Text.ne_of_isBracketed (Text.isBracketed_lower (Value.isBracketed_display hu)) ?_
      revert word
      decide
    exact .inr fun word hmem => ⟨hne _ hv word hmem, hne _ hw word hmem⟩

/-- **A message** is read alike, or is a text. -/
theorem readMessage_alike (h : Reordered raw raw') (path : String)
    (htexts : settled → ∀ v ∈ textsOfMessage raw, v.hasOneOrder = true) :
    GoAlike (readMessage raw path) (readMessage raw' path)
      (fun source source' => settled → source.Alike Reordered source') := by
  rw [readMessage.eq_def, readMessage.eq_def]
  rcases h.elim with ⟨hscalar, rfl⟩ | ⟨items, items', rfl, rfl, -⟩ |
    ⟨fields, fields', rfl, rfl, -⟩
  · cases raw' with
    | record => cases hscalar
    | _ => exact fun _ => ⟨.refl _, rfl⟩
  · intro hsettled
    refine ⟨.of_eq ?_, rfl⟩
    rw [h.display_eq (htexts hsettled _ List.mem_cons_self)]
  · exact (Source.read_alike _ _ path h).mono (fun _ _ _ _ hsource _ => hsource) fun _ _ h => h

/-- **An output** is read alike. -/
theorem readOutput_alike (h : Reordered raw raw') (stepId stepId' path : String)
    (htexts : settled → ∀ v ∈ textsOfOutput raw, v.hasOneOrder = true) :
    GoAlike (readOutput raw stepId path) (readOutput raw' stepId' path)
      (fun a a' => settled → a.Alike Reordered a') := by
  have hdata : Reordered (raw.either "data" "output_data") (raw'.either "data" "output_data") :=
    (h.field _).orElse (h.field _)
  rw [readOutput_eq, readOutput_eq]
  rw [textsOfOutput] at htexts
  revert hdata htexts
  generalize raw.either "data" "output_data" = data
  generalize raw'.either "data" "output_data" = data'
  intro htexts hdata
  rcases hdata.elim with ⟨hscalar, rfl⟩ | ⟨_, _, rfl, rfl, -⟩ | ⟨fields, fields', rfl, rfl, -⟩
  · cases data' with
    | record => cases hscalar
    | _ => trivial
  · trivial
  have hfields := outputData_reordered hdata
  dsimp only
  rw [readData, readData]
  rcases responseWord_alike hfields with hword | hword
  · rw [← hword]
    by_cases hsuccess : responseWord (outputData (.record fields)) = "success"
    · rw [if_pos hsuccess, if_pos hsuccess]
      have hsource := Source.read_alike _ _ s!"{path}.data" hfields
      exact (hsource.mapError fun _ _ _ => trivial).map fun _ _ hvalue _ => hvalue
    rw [if_neg hsuccess] at htexts ⊢
    rw [if_neg hsuccess]
    split_ifs
    · have hcode := readCode_alike (hfields.field "errorCode") stepId stepId'
      have hmessage := readMessage_alike (hfields.field "errorMessage")
        s!"{path}.data.errorMessage" htexts
      refine hcode.bind fun code code' hcode => ?_
      refine (hmessage.mapError fun _ _ _ => trivial).bind fun message message' hmessage => ?_
      exact fun hsettled => ⟨hcode, hmessage hsettled⟩
    · trivial
  · simp [hword "success" (by simp), hword "error" (by simp), hword "failure" (by simp)]

/-! ### Steps -/

/-- The target of a step that is no output, unread. -/
def nextOf (raw : Value) : Value :=
  if (raw.field "next").isNull then raw.field "next_step" else raw.field "next"

theorem nextOf_reordered (h : Reordered raw raw') : Reordered (nextOf raw) (nextOf raw') := by
  rw [nextOf, nextOf, (h.field "next").isNull_eq]
  split_ifs
  · exact h.field _
  · exact h.field _

/-- **Whether a step has an identifier** does not depend on the order of keys: the text of a list or
a record is not empty. -/
theorem named_iff (h : Reordered raw raw') : Named raw ↔ Named raw' := by
  have hid := h.field "id"
  rw [Named, Named, hid.isNull_eq]
  rcases hid.eq_or_structured with heq | ⟨hv, hw⟩
  · rw [heq]
  · have hne : ∀ u : Value, u.isScalar = false → u.display.isEmpty = false := by
      intro u hu
      have hempty : u.display ≠ "" :=
        Text.ne_of_isBracketed (Value.isBracketed_display hu) (by decide)
      simpa using hempty
    rw [hne _ hv, hne _ hw]

/-- **Reading a step that has an identifier**, by its kind. -/
theorem read_of_named (h : Named raw) (path : String) :
    read raw path = do
      let id := (raw.field "id").display
      let action ←
        match raw.field "type" with
        | .text "subFunction" => readCall raw (nextOf raw) id path
        | .text "condition" => (readBranch raw (nextOf raw) id path).mapError .read
        | .text "output" => readOutput raw id path
        | kind => .error (.read (.unknownStep kind path id))
      return { id, action } := by
  cases raw with
  | record fields =>
    rw [read]
    exact if_neg h
  | _ => exact absurd (.inl rfl) h

theorem exists_refusal_of_not_named (h : ¬Named raw) (path : String) :
    ∃ refusal, read raw path = .error (.read refusal) := by
  cases raw with
  | record fields =>
    refine ⟨.stepNameless path, ?_⟩
    rw [read]
    exact if_pos (not_not.mp h)
  | _ => exact ⟨_, rfl⟩

/-- **A step** is read alike. -/
theorem read_alike (h : Reordered raw raw') (path : String)
    (htexts : settled → ∀ v ∈ texts raw, v.hasOneOrder = true) :
    GoAlike (read raw path) (read raw' path) (fun s s' => settled → s.Alike Reordered s') := by
  have hnamed := named_iff h
  by_cases hid : Named raw
  swap
  · obtain ⟨refusal, hrefusal⟩ := exists_refusal_of_not_named hid path
    obtain ⟨refusal', hrefusal'⟩ :=
      exists_refusal_of_not_named (fun h' => hid (hnamed.mpr h')) path
    rw [hrefusal, hrefusal']
    trivial
  rw [read_of_named hid, read_of_named (hnamed.mp hid)]
  have hnext := nextOf_reordered h
  simp only [texts, List.forall_mem_cons] at htexts
  have hid' := fun hsettled => (h.field "id").display_eq (htexts hsettled).1
  -- The kind of the step is the same in both, or a list or a record in both, which is no kind.
  rcases (h.field "type").eq_or_structured with heq | ⟨hv, hw⟩
  · rw [heq]
    dsimp only
    split
    next hcall =>
      rw [hcall] at htexts
      refine (readCall_alike h hnext _ _ path fun hsettled => (htexts hsettled).2).bind ?_
      exact fun _ _ haction hsettled => ⟨hid' hsettled, haction hsettled⟩
    next =>
      refine ((readBranch_alike h hnext _ _ path).mapError fun _ _ _ => trivial).bind ?_
      exact fun _ _ haction hsettled => ⟨hid' hsettled, haction⟩
    next houtput =>
      rw [houtput] at htexts
      refine (readOutput_alike h _ _ path fun hsettled => (htexts hsettled).2).bind ?_
      exact fun _ _ haction hsettled => ⟨hid' hsettled, haction hsettled⟩
    next => trivial
  · revert hv hw
    generalize raw.field "type" = kind
    generalize raw'.field "type" = kind'
    intro hv hw
    cases kind <;> cases kind' <;> trivial

end Step

end RuleFlow
