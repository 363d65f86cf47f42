import RuleFlow.Proofs.Rule.StepSpelling

/-!
# Documents in the older spelling

A document in the current spelling may be rewritten to the older one: any of its steps, and its
inputs and steps as a whole, which then stand in a function. What it is read as is the same.

* `RuleFlow.Rule.Respelled` relates a document to one that is rewritten.
* `RuleFlow.Rule.read_respelled` reads the two side by side, and
  `RuleFlow.Rule.outcome_of_respelled` is the result.
* `RuleFlow.Rule.failure_refused_in_older_spelling`: a failure whose older data have no `data_type`
  is read in the current spelling alone.
-/

namespace RuleFlow

open Value (SameBeyond Renames Spread InRecord InList)

namespace Rule

variable {p p' v w : Value} {R : Value → Value → Prop}

/-! ### Rewriting a document -/

/-- **The inputs of a document are kept, and its steps are rewritten.** -/
structure PartsRespelled (v w : Value) : Prop where
  /-- The inputs have one spelling. -/
  inputs : w.field "inputParams" = v.field "inputParams"
  /-- Any of the steps may be rewritten. -/
  steps : InList (InRecord Step.Respelled) (v.field "steps") (w.field "steps")

/-- **A document is rewritten.** -/
structure Respelled (p p' : Value) : Prop where
  /-- What has one spelling is kept. -/
  others : SameBeyond ["inputParams", "steps", "ruleFunction"] p p'
  /-- In the current spelling there is no function. -/
  flat : ∀ inner, p.field "ruleFunction" ≠ .record inner
  /-- Inputs and steps stay in the document, or stand in a function. -/
  parts : p'.field "ruleFunction" = p.field "ruleFunction" ∧ PartsRespelled p p' ∨
    ∃ inner, p'.field "ruleFunction" = .record inner ∧ PartsRespelled p (.record inner)

/-- **The outputs of a document with older data are recognised.** -/
def Recognised (p : Value) : Prop :=
  ∀ raw ∈ ((body p).field "steps").items, Step.Recognised raw

theorem body_eq_self (h : ∀ inner, p.field "ruleFunction" ≠ .record inner) : body p = p := by
  rw [body]
  split
  next inner hinner => exact absurd hinner (h inner)
  next => rfl

/-- **Inputs and steps are found** in either spelling. -/
theorem body_respelled (h : Respelled p p') : PartsRespelled (body p) (body p') := by
  rw [body_eq_self h.flat]
  rcases h.parts with ⟨hfunction, hparts⟩ | ⟨inner, hfunction, hparts⟩
  · rwa [body_eq_self fun inner => hfunction ▸ h.flat inner]
  · rwa [body, hfunction]

/-! ### Reading it -/

/-- **The steps of a document** are taken out of it item by item. -/
theorem listOf_respelled {key : String} (h : InList (InRecord R) (v.field key) (w.field key))
    (refusal : ReadError) :
    EndAlike (listOf v key refusal) (listOf w key refusal)
      (fun items items' => List.Forall₂ (InRecord R) items items' ∧ (w.field key).items = items')
      Eq := by
  rw [listOf.eq_def, listOf.eq_def]
  revert h
  generalize v.field key = list
  generalize w.field key = list'
  intro h
  cases h with
  | same =>
    split
    next items hitems =>
      exact ⟨List.forall₂_same.mpr fun _ _ => .same _, Value.items_of_orElse hitems⟩
    next => rfl
  | list hitems =>
    cases hitems with
    | nil => exact ⟨.nil, rfl⟩
    | cons hfirst hrest => exact ⟨.cons hfirst hrest, rfl⟩

theorem readSteps_respelled {steps steps' : List Value}
    (h : List.Forall₂ (InRecord Step.Respelled) steps steps')
    (hrecognised : ∀ raw ∈ steps', Step.Recognised raw) :
    OneOutcome (readSteps steps) (readSteps steps') := by
  have hsteps : List.Forall₂ (fun raw raw' => InRecord Step.Respelled raw raw' ∧
      Step.Recognised raw') steps steps' :=
    forall₂_imp_mem h fun _ _ raw' hraw' hrespelled => ⟨hrespelled, hrecognised raw' hraw'⟩
  have hread : EndAlike (readSteps steps) (readSteps steps') (List.Forall₂ Eq)
      fun e d => e = d ∨ e.IsRefusal ∧ d.IsRefusal :=
    endAlike_mapM_zipIdx hsteps fun _ _ _ _ hraw => Step.read_respelled hraw.1 hraw.2 _
  exact hread.mono (fun _ _ _ _ h => List.forall₂_eq_eq_eq ▸ h) fun _ _ h => h

/-- **A document** comes to the same in either spelling, if its outputs are recognised. -/
theorem read_respelled (h : Respelled p p') (hrecognised : Recognised p') (most : Option Int) :
    OneOutcome (read p most) (read p' most) := by
  have hid : p'.either "ruleId" "id" = p.either "ruleId" "id" := by
    rw [Value.either, Value.either, h.others "ruleId" (by decide), h.others "id" (by decide)]
  have hassembled : assembled p' = assembled p := by
    funext inputs steps
    rw [assembled, assembled, hid, h.others "name" (by decide), h.others "entry" (by decide)]
  have hnamed : Named p' ↔ Named p := by rw [Named, Named, hid]
  by_cases hnamed' : Named p
  · have hparts := body_respelled h
    have hinputs : listOf (body p') "inputParams" = listOf (body p) "inputParams" := by
      funext refusal
      rw [listOf, listOf, hparts.inputs]
    rw [read_of_named hnamed', read_of_named (hnamed.mpr hnamed'), hid, hinputs, hassembled]
    refine .bind_same (fun _ => .inl rfl) fun inputs => ?_
    refine ((listOf_respelled hparts.steps _).mapError fun _ _ h => .inl (congrArg _ h)).bind ?_
    rintro steps steps' ⟨hsteps, hsteps'⟩
    -- There are as many steps in one as in the other, so both exceed the bound or neither does.
    rw [hsteps.length_eq]
    split
    · exact .inl rfl
    refine .bind_same (fun _ => .inl rfl) fun inputs => ?_
    refine (readSteps_respelled hsteps fun raw hraw => hrecognised raw (hsteps' ▸ hraw)).bind ?_
    rintro steps _ rfl
    rfl
  · -- The refusals tell the keys of the documents, in which these may differ.
    exact .of_refused (exists_refusal_of_not_named hnamed' most)
      (exists_refusal_of_not_named (fun h' => hnamed' (hnamed.mp h')) most)

/-- **The spelling does not matter.** A document in the current spelling, and the same document
rewritten to the older one wherever one likes, come to the same, or both are refused, if the outputs
of the second are recognised. Unless reading trips over the first, either both are read as one rule
or both are refused. -/
theorem outcome_of_respelled (h : InRecord Respelled p p') (hrecognised : Recognised p')
    (most : Option Int) :
    (read p' most = read p most ∨ (∃ refusal, read p most = .error (.read refusal)) ∧
      ∃ refusal, read p' most = .error (.read refusal)) ∧
    (¬Trips p most → (∃ r, read p most = .ok r ∧ read p' most = .ok r) ∨
      (∃ refusal, read p most = .error (.read refusal)) ∧
        ∃ refusal, read p' most = .error (.read refusal)) := by
  have hone : OneOutcome (read p most) (read p' most) := by
    cases h with
    | same => exact .of_eq rfl
    | record h => exact read_respelled h hrecognised most
  refine ⟨hone.eq_or_refused, fun htrips => ?_⟩
  have hends := ends_read htrips
  rcases hone.eq_or_refused with heq | hrefused
  · cases hread : read p most with
    | ok r => exact .inl ⟨r, rfl, heq.trans hread⟩
    | error e =>
      obtain ⟨refusal, rfl⟩ : e.IsRefusal := hends.of_error hread
      exact .inr ⟨⟨refusal, rfl⟩, refusal, heq.trans hread⟩
  · exact .inr hrefused

end Rule

/-! ### A document in either spelling -/

/-- A branch on an input, in the current spelling. -/
def inputBranch : Value :=
  .record [("id", .text "b"), ("type", .text "condition"),
    ("conditions", .list [.record
      [("lhs", .record [("type", .text "inputParam"), ("value", .text "x")]),
        ("operator", .text "EQ"), ("rhs", .record [("type", .text "static"), ("value", .int 1)])]]),
    ("next", .record [("true", .text "f"), ("false", .text "f")])]

/-- The branch in the older spelling, but for the right side and one of the targets. -/
def olderInputBranch : Value :=
  .record [("id", .text "b"), ("type", .text "condition"),
    ("conditions", .list [.record [("lhs_type", .text "inputParam"), ("lhs_value", .text "x"),
      ("operator", .text "EQ"), ("rhs", .record [("type", .text "static"), ("value", .int 1)])]]),
    ("next_step", .record [("onTrue", .text "f"), ("false", .text "f")])]

/-- An output that reports a failure, in the current spelling. -/
def failingOutput : Value :=
  .record [("id", .text "f"), ("type", .text "output"), ("data", .record
    [("responseType", .text "error"), ("errorCode", .int 5), ("errorMessage", .text "boom")])]

/-- The output in the older spelling, with a `data_type` or without one. -/
def olderFailingOutput (type : Option Value) : Value :=
  .record [("id", .text "f"), ("type", .text "output"), ("output_data", .record
    ((type.map fun type => ("data_type", type)).toList ++ [("response_type", .text "error"),
      ("error_code", .int 5), ("error_message", .text "boom")]))]

/-- A document that ends in the failure. -/
def failingDocument (branches : List Value) : Value :=
  .record [("id", .text "r"), ("steps", .list (branches ++ [failingOutput]))]

/-- The document in the older spelling. -/
def olderFailingDocument (branches : List Value) (type : Option Value) : Value :=
  .record [("id", .text "r"), ("ruleFunction", .record
    [("steps", .list (branches ++ [olderFailingOutput type]))])]

theorem inputBranch_respelled : Step.Respelled inputBranch olderInputBranch := by
  refine ⟨?_, .renamed rfl rfl (.record ?_), .list (.cons (.record ?_) .nil), .kept ?_⟩
  · intro key hkey
    simp only [List.mem_cons, not_or] at hkey
    simp [inputBranch, olderInputBranch, Value.field, Keyed.find?_cons, hkey]
  · exact ⟨.renamed rfl rfl rfl, .kept (.some rfl) rfl⟩
  · refine ⟨?_, .spread ?_ rfl rfl ?_, .kept rfl ?_⟩
    · intro key hkey
      change key ∉ ["lhs", "lhs_type", "lhs_value", "lhs_data_type", "rhs", "rhs_type", "rhs_value",
        "rhs_data_type"] at hkey
      simp only [List.mem_cons, not_or] at hkey
      simp [Value.field, Keyed.find?_cons, hkey]
    all_goals
      simp only [Spread, Step.sideKeys, List.forall_mem_cons]
      exact ⟨rfl, rfl, rfl, by simp⟩
  · simp only [List.forall_mem_cons]
    exact ⟨rfl, rfl, by simp⟩

theorem failingOutput_respelled {type : Option Value} (h : type ∈ [none, some .null]) :
    Step.Respelled failingOutput (olderFailingOutput type) := by
  have htype : type = none ∨ type = some .null := by simpa using h
  refine ⟨?_, .kept .none rfl, .same _, .moved rfl rfl rfl rfl ⟨rfl, ?_, ?_, .inr rfl⟩⟩
  · intro key hkey
    simp only [List.mem_cons, not_or] at hkey
    simp [failingOutput, olderFailingOutput, Value.field, Keyed.find?_cons, hkey]
  all_goals
    simp only [Spread, Step.outputKeys, List.forall_mem_cons]
    rcases htype with rfl | rfl <;> exact ⟨rfl, rfl, rfl, rfl, rfl, rfl, by simp⟩

theorem failingDocument_respelled {branches branches' : List Value} {type : Option Value}
    (hbranches : List.Forall₂ (InRecord Step.Respelled) branches branches')
    (htype : type ∈ [none, some .null]) :
    InRecord Rule.Respelled (failingDocument branches) (olderFailingDocument branches' type) := by
  have hsteps := List.rel_append hbranches (.cons (.record (failingOutput_respelled htype)) .nil)
  refine .record ⟨?_, nofun, .inr ⟨_, rfl, rfl, .list hsteps⟩⟩
  intro key hkey
  simp only [List.mem_cons, not_or] at hkey
  simp [Value.field, Keyed.find?_cons, hkey]

/-! ### What it is read as -/

/-- The branch. -/
def inputBranchStep : Step :=
  ⟨"b", .branch [⟨.input "x", .eq, .literal (.int 1) .any, none⟩] (some "f") (some "f")⟩

/-- The failure. -/
def failingStep : Step :=
  ⟨"f", .output (.failure 5 (.literal (.text "boom") .string))⟩

set_option maxRecDepth 10000 in
theorem read_inputBranch (path : String) : Step.read inputBranch path = .ok inputBranchStep := by
  have hnamed : Step.Named inputBranch := Step.named_of_text rfl rfl
  have hlhs : ∀ path, Source.read (.record [("type", .text "inputParam"), ("value", .text "x")])
      path = .ok (.input "x") := fun path => (Source.read_record _ path).trans rfl
  have hrhs : ∀ path, Source.read (.record [("type", .text "static"), ("value", .int 1)])
      path = .ok (.literal (.int 1) .any) := fun path => (Source.read_record _ path).trans rfl
  have hoperator : ∀ path, Operator.read (.text "EQ") path = .ok .eq := fun _ => rfl
  rw [Step.read_of_named hnamed]
  simp [inputBranch, Step.readBranch, Step.readCondition, Step.readCombinator, Step.side,
    Value.field, Keyed.find?_cons, Value.orElse, Value.truthy, hlhs, hrhs, hoperator, Step.nextOf,
    Step.branchTargets, Step.readTarget, bind, Except.bind, pure, Except.pure, Except.mapError,
    Value.isNull, List.zipIdx]
  rfl

set_option maxRecDepth 10000 in
theorem read_failingOutput (path : String) : Step.read failingOutput path = .ok failingStep := rfl

theorem read_failingDocument :
    Rule.read (failingDocument [inputBranch]) =
      .ok { id := "r", name := "r", steps := [inputBranchStep, failingStep] } := by
  have hopens : Rule.Opens (failingDocument [inputBranch]) none [] [inputBranch, failingOutput] :=
    ⟨Rule.named_of_text rfl rfl, rfl, rfl, nofun⟩
  have hsteps : Rule.readSteps [inputBranch, failingOutput] =
      .ok [inputBranchStep, failingStep] := by
    simp only [Rule.readSteps, List.zipIdx_cons, List.mapM_cons, read_inputBranch,
      read_failingOutput]
    rfl
  rw [Rule.read_of_opens hopens, hsteps]
  rfl

theorem recognised_olderFailingDocument :
    Rule.Recognised (olderFailingDocument [olderInputBranch] (some .null)) := by
  intro raw hraw
  change raw ∈ [olderInputBranch, olderFailingOutput (some .null)] at hraw
  simp only [List.mem_cons, List.not_mem_nil, or_false] at hraw
  rcases hraw with rfl | rfl
  · exact fun hfailure => absurd hfailure Step.not_tellsFailure_null
  · exact fun _ => rfl

theorem read_olderFailingDocument :
    InRecord Rule.Respelled (failingDocument [inputBranch])
        (olderFailingDocument [olderInputBranch] (some .null)) ∧
      Rule.Recognised (olderFailingDocument [olderInputBranch] (some .null)) ∧
      Rule.read (olderFailingDocument [olderInputBranch] (some .null)) =
        .ok { id := "r", name := "r", steps := [inputBranchStep, failingStep] } := by
  have hrespelled := failingDocument_respelled (.cons (.record inputBranch_respelled) .nil)
    (List.mem_cons_of_mem none List.mem_cons_self)
  refine ⟨hrespelled, recognised_olderFailingDocument, ?_⟩
  obtain ⟨heq | ⟨⟨refusal, hrefused⟩, -⟩, -⟩ :=
    Rule.outcome_of_respelled hrespelled recognised_olderFailingDocument none
  · exact heq.trans read_failingDocument
  · exact nomatch read_failingDocument.symm.trans hrefused

/-! ### A failure that is not recognised -/

theorem read_olderFailingOutput (path : String) :
    Step.read (olderFailingOutput none) path =
      .error (.read (.unknownSource .null s!"{path}.data")) := by
  have hnamed : Step.Named (olderFailingOutput none) := Step.named_of_text rfl rfl
  -- The word for the kind of the outcome is not found, so that it is taken for a success.
  have houtput : Step.readOutput (olderFailingOutput none) "f" path =
      .error (.read (.unknownSource .null s!"{path}.data")) := by
    rw [Step.readOutput_eq]
    change (if Text.lower "success" = "success" then _ else _) = _
    rw [if_pos Step.lower_success]
    change ((Source.read (.record (_ :: _)) s!"{path}.data").mapError _).map _ = _
    rw [Source.read_record]
    rfl
  rw [Step.read_of_named hnamed]
  change (Step.readOutput _ "f" path >>= _) = _
  rw [houtput]
  rfl

set_option maxRecDepth 10000 in
/-- **A failure without a `data_type`** is read in the current spelling, and refused in the older
one. -/
theorem Rule.failure_refused_in_older_spelling :
    InRecord Respelled (failingDocument []) (olderFailingDocument [] none) ∧
      read (failingDocument []) = .ok { id := "r", name := "r", steps := [failingStep] } ∧
      read (olderFailingDocument [] none) =
        .error (.read (.unknownSource .null "$.steps[0].data")) := by
  have hopens : Opens (olderFailingDocument [] none) none [] [olderFailingOutput none] :=
    ⟨named_of_text rfl rfl, rfl, rfl, nofun⟩
  have hsteps : readSteps [olderFailingOutput none] =
      .error (.read (.unknownSource .null "$.steps[0].data")) := by
    simp only [readSteps, List.zipIdx_cons, List.mapM_cons, read_olderFailingOutput]
    rfl
  refine ⟨failingDocument_respelled .nil List.mem_cons_self, rfl, ?_⟩
  rw [read_of_opens hopens, hsteps]
  rfl

end RuleFlow
