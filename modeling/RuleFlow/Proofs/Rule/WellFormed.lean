import RuleFlow.Proofs.Rule.Reading
import RuleFlow.Proofs.Run.Accepted

/-!
# Rules that were read are well formed

Reading looks at each part of a document alone, and later stages rely on what it leaves in the rule:
a branch folds its conditions from the first on, a reference is looked up by its name, a target is
followed. So what was read is what they expect, in whichever spelling the document was written.

* `RuleFlow.Step.WellFormed` is what later stages expect of a step.
* `RuleFlow.Source.named_read`: no name inside a source is empty, at any depth.
* `RuleFlow.Step.joined_readBranch`: the conditions of a branch are joined from the second on.
* `RuleFlow.Rule.read_wellFormed` is the result. Compiling makes the check of combinators again, for
  rules that were put together in another way; a rule that was read passes it.
-/

namespace RuleFlow

/-! ### What later stages expect -/

/-- **No name is empty** among those that a source refers to, at any depth. -/
def Source.Named (source : Source) : Prop :=
  ∀ reference ∈ source.references, reference.name ≠ ""

/-- **Conditions that can be folded**: there is a first one, which joins nothing, and every later
one tells how it is joined to those before it. -/
def Condition.Joined (conditions : List Condition) : Prop :=
  ∃ first rest, conditions = first :: rest ∧ first.combinator = none ∧
    ∀ condition ∈ rest, condition.combinator ≠ none

/-- **A step is well formed.** -/
structure Step.WellFormed (s : Step) : Prop where
  /-- It has an identifier. -/
  id : s.id ≠ ""
  /-- A branch has conditions that can be folded. -/
  joined : ∀ conditions onTrue onFalse,
    s.action = .branch conditions onTrue onFalse → Condition.Joined conditions
  /-- What it refers to has a name. -/
  named : ∀ reference ∈ s.references, reference.name ≠ ""
  /-- A target is none, or the name of a step. -/
  targets : ∀ target ∈ s.targets, target ≠ some ""

/-- **The check of combinators** is passed by conditions that can be folded, and by no others. -/
theorem Step.checkCombinators_eq_ok_iff (s : Step) :
    s.checkCombinators = .ok () ↔ ∀ conditions onTrue onFalse,
      s.action = .branch conditions onTrue onFalse → Condition.Joined conditions := by
  constructor
  · intro h conditions onTrue onFalse haction
    exact combinators_of_check haction h
  · intro h
    rw [checkCombinators]
    split
    next conditions onTrue onFalse haction =>
      obtain ⟨first, rest, rfl, hfirst, hrest⟩ := h conditions onTrue onFalse haction
      rw [if_neg (by simp)]
      split
      next c i hfound =>
        have hwrong : c.combinator.isNone ≠ (i == 0) := by
          simpa using List.find?_some hfound
        rcases List.mem_cons.mp (List.mem_of_find?_eq_some hfound) with heq | hmem
        · obtain ⟨rfl, rfl⟩ := Prod.mk.inj heq
          exact absurd (by simp [hfirst]) hwrong
        · have hlater : 1 ≤ i := List.le_snd_of_mem_zipIdx hmem
          have hjoins : c.combinator.isNone = false := Bool.eq_false_iff.mpr fun hnone =>
            hrest c (List.fst_mem_of_mem_zipIdx hmem) (Option.isNone_iff_eq_none.mp hnone)
          have hi : (i == 0) = false := by
            simpa using Nat.ne_of_gt hlater
          exact absurd (hjoins.trans hi.symm) hwrong
      next => rfl
    next => rfl

/-! ### References -/

theorem readReference_ne_empty {kind path name : String} {found : Option Value}
    (h : readReference kind found path = .ok name) : name ≠ "" := by
  rw [readReference.eq_def] at h
  split at h
  next =>
    split_ifs at h with hempty
    obtain rfl := Except.ok.inj h
    simpa using hempty
  next => cases h

namespace Source

theorem named_literal (v : Value) (type : DataType) : Named (.literal v type) := by
  simp [Named, references]

mutual

/-- **A source that was read** has no empty name inside it. -/
theorem named_read (raw : Value) (path : String) (source : Source)
    (h : read raw path = .ok source) : source.Named := by
  cases raw with
  | record fields =>
    rw [read_record, ofParts.eq_def] at h
    split at h
    next =>
      obtain ⟨type, -, rfl⟩ := map_eq_ok.mp h
      exact named_literal _ type
    next =>
      obtain ⟨name, hname, rfl⟩ := map_eq_ok.mp h
      simpa [Named, references, Reference.name] using readReference_ne_empty hname
    next =>
      obtain ⟨name, hname, rfl⟩ := map_eq_ok.mp h
      simpa [Named, references, Reference.name] using readReference_ne_empty hname
    next =>
      split at h
      next items hlist =>
        obtain ⟨sources, hsources, rfl⟩ := map_eq_ok.mp h
        have hsmaller := Value.sizeOf_items_lt hlist
        exact named_readItems items path 0 sources hsources
      next => cases h
    next => cases h
  | _ =>
    rw [read] at h
    · cases h
    · exact fun _ hrecord => nomatch hrecord
termination_by sizeOf raw

theorem named_readItems (items : List Value) (path : String) (index : Nat)
    (sources : List Source) (h : readItems items path index = .ok sources) :
    ∀ reference ∈ referencesOfAll sources, reference.name ≠ "" := by
  cases items with
  | nil =>
    rw [readItems] at h
    obtain rfl := Except.ok.inj h
    simp [referencesOfAll]
  | cons item rest =>
    rw [readItems_cons] at h
    obtain ⟨source, hsource, h⟩ := bind_eq_ok.mp h
    obtain ⟨sources, hsources, h⟩ := bind_eq_ok.mp h
    obtain rfl := Except.ok.inj h
    rw [referencesOfAll, List.forall_mem_append]
    refine ⟨?_, named_readItems rest path (index + 1) sources hsources⟩
    rw [readItem] at hsource
    split at hsource
    · exact named_read item _ source hsource
    · obtain rfl := Except.ok.inj hsource
      exact named_literal item .any
termination_by sizeOf items

end

end Source

/-! ### Steps -/

namespace Step

variable {raw next : Value} {id stepId path : String} {action : Action}

theorem named_of_sources {s : Step} (h : ∀ source ∈ s.sources, source.Named) :
    ∀ reference ∈ s.references, reference.name ≠ "" := by
  simpa only [references, List.forall_mem_flatMap, Source.Named] using h

theorem readTarget_ne_empty {label : String} {target : Option String}
    (h : readTarget raw stepId label = .ok target) : target ≠ some "" := by
  rw [readTarget.eq_def] at h
  split at h
  next =>
    obtain rfl := Except.ok.inj h
    exact nofun
  next name =>
    obtain rfl := Except.ok.inj h
    split_ifs with hempty
    · exact nofun
    · simpa using hempty
  next => cases h

theorem named_readArgument {a : Argument} (h : readArgument raw path = .ok a) :
    a.source.Named := by
  rw [readArgument] at h
  split at h
  next => cases h
  next data hdata =>
    obtain ⟨source, hsource, h⟩ := bind_eq_ok.mp h
    obtain rfl := Except.ok.inj h
    exact Source.named_read data _ source hsource

/-- **A call that was read** is well formed. -/
theorem wellFormed_readCall (h : readCall raw next stepId path = .ok action) (hid : id ≠ "") :
    WellFormed ⟨id, action⟩ := by
  rw [readCall] at h
  dsimp only at h
  split_ifs at h
  split at h
  next fields hfunction =>
    split_ifs at h
    obtain ⟨raws, -, h⟩ := bind_eq_ok.mp h
    obtain ⟨arguments, harguments, h⟩ := bind_eq_ok.mp h
    obtain ⟨next, hnext, h⟩ := bind_eq_ok.mp h
    obtain rfl := Except.ok.inj h
    have htarget := readTarget_ne_empty (mapError_eq_ok.mp hnext)
    refine ⟨hid, ?_, named_of_sources ?_, ?_⟩
    · intro conditions onTrue onFalse haction
      cases haction
    · simp only [sources, List.forall_mem_map]
      intro a ha
      obtain ⟨⟨raw, i⟩, -, ha⟩ := (mem_of_mapM_eq_ok harguments).2 a ha
      exact named_readArgument (mapError_eq_ok.mp ha)
    · simpa [targets] using htarget
  next => cases h

theorem readCombinator_eq_none_iff {index : Nat} {c : Option Combinator}
    (h : readCombinator raw index path = .ok c) : c = none ↔ index = 0 := by
  rw [readCombinator] at h
  split_ifs at h with hindex
  · obtain rfl := Except.ok.inj h
    exact iff_of_true rfl hindex
  · dsimp only at h
    split at h
    next =>
      obtain rfl := Except.ok.inj h
      exact iff_of_false nofun hindex
    next => cases h

/-- **A condition that was read** joins nothing exactly if it is the first, and has no empty name
in its sides. -/
theorem condition_of_readCondition {index : Nat} {c : Condition}
    (h : readCondition raw index path = .ok c) :
    (c.combinator = none ↔ index = 0) ∧ ∀ source ∈ [c.lhs, c.rhs], source.Named := by
  rw [readCondition.eq_def] at h
  split at h
  next fields =>
    obtain ⟨combinator, hcombinator, h⟩ := bind_eq_ok.mp h
    obtain ⟨lhs, hlhs, h⟩ := bind_eq_ok.mp h
    obtain ⟨operator, -, h⟩ := bind_eq_ok.mp h
    obtain ⟨rhs, hrhs, h⟩ := bind_eq_ok.mp h
    obtain rfl := Except.ok.inj h
    refine ⟨readCombinator_eq_none_iff hcombinator, ?_⟩
    simpa using And.intro (Source.named_read _ _ lhs hlhs) (Source.named_read _ _ rhs hrhs)
  next => cases h

/-- **The conditions of a branch that was read** can be folded. -/
theorem joined_of_mapM {first : Value} {rest : List Value} {conditions : List Condition}
    (h : ((first :: rest).zipIdx.mapM fun (raw, i) =>
      readCondition raw i s!"{path}.conditions[{i}]") = .ok conditions) :
    Condition.Joined conditions := by
  obtain ⟨c, cs, hc, hcs, rfl⟩ := mapM_cons_eq_ok.mp h
  refine ⟨c, cs, rfl, (condition_of_readCondition hc).1.mpr rfl, fun d hd => ?_⟩
  obtain ⟨⟨raw, i⟩, hmem, hd⟩ := (mem_of_mapM_eq_ok hcs).2 d hd
  have hlater : 1 ≤ i := List.le_snd_of_mem_zipIdx hmem
  intro hnone
  have hfirst : i = 0 := (condition_of_readCondition hd).1.mp hnone
  omega

/-- **A branch that was read** is well formed. -/
theorem wellFormed_readBranch (h : readBranch raw next stepId path = .ok action) (hid : id ≠ "") :
    WellFormed ⟨id, action⟩ := by
  rw [readBranch] at h
  split at h
  next first rest hconditions =>
    obtain ⟨conditions, hread, h⟩ := bind_eq_ok.mp h
    obtain ⟨⟨rawTrue, rawFalse⟩, -, h⟩ := bind_eq_ok.mp h
    obtain ⟨onTrue, htrue, h⟩ := bind_eq_ok.mp h
    obtain ⟨onFalse, hfalse, h⟩ := bind_eq_ok.mp h
    obtain rfl := Except.ok.inj h
    refine ⟨hid, fun _ _ _ haction => ?_, named_of_sources ?_, ?_⟩
    · obtain ⟨rfl, -, -⟩ := Action.branch.inj haction
      exact joined_of_mapM hread
    · simp only [sources, List.forall_mem_flatMap]
      intro c hc
      obtain ⟨⟨raw, i⟩, -, hc⟩ := (mem_of_mapM_eq_ok hread).2 c hc
      exact (condition_of_readCondition hc).2
    · simpa [targets] using And.intro (readTarget_ne_empty htrue) (readTarget_ne_empty hfalse)
  next => cases h

theorem named_readMessage {message : Source} (h : readMessage raw path = .ok message) :
    message.Named := by
  rw [readMessage.eq_def] at h
  split at h
  next => exact Source.named_read _ _ message h
  all_goals
    obtain rfl := Except.ok.inj h
    exact Source.named_literal _ .string

/-- **An output that was read** is well formed. -/
theorem wellFormed_readOutput (h : readOutput raw stepId path = .ok action) (hid : id ≠ "") :
    WellFormed ⟨id, action⟩ := by
  rw [readOutput] at h
  split at h
  next fields hdata =>
    dsimp only at h
    split_ifs at h
    · obtain ⟨value, hvalue, rfl⟩ := map_eq_ok.mp h
      have hnamed := Source.named_read _ _ value (mapError_eq_ok.mp hvalue)
      refine ⟨hid, ?_, named_of_sources ?_, ?_⟩
      · intro conditions onTrue onFalse haction
        cases haction
      · simpa [sources] using hnamed
      · simp [targets]
    · obtain ⟨code, -, h⟩ := bind_eq_ok.mp h
      obtain ⟨message, hmessage, h⟩ := bind_eq_ok.mp h
      obtain rfl := Except.ok.inj h
      have hnamed := named_readMessage (mapError_eq_ok.mp hmessage)
      refine ⟨hid, ?_, named_of_sources ?_, ?_⟩
      · intro conditions onTrue onFalse haction
        cases haction
      · simpa [sources] using hnamed
      · simp [targets]
  next => cases h

/-- **A step that was read** is well formed. -/
theorem wellFormed_read {s : Step} (h : read raw path = .ok s) : s.WellFormed := by
  rw [read.eq_def] at h
  split at h
  next fields =>
    dsimp only at h
    split at h
    next => cases h
    next hid =>
      have hid : ((Value.record fields).field "id").display ≠ "" := fun hempty =>
        hid (.inr (by simp [hempty]))
      split at h
      · obtain ⟨action, haction, h⟩ := bind_eq_ok.mp h
        obtain rfl := Except.ok.inj h
        exact wellFormed_readCall haction hid
      · obtain ⟨action, haction, h⟩ := bind_eq_ok.mp h
        obtain rfl := Except.ok.inj h
        exact wellFormed_readBranch (mapError_eq_ok.mp haction) hid
      · obtain ⟨action, haction, h⟩ := bind_eq_ok.mp h
        obtain rfl := Except.ok.inj h
        exact wellFormed_readOutput haction hid
      · cases h
  next => cases h

end Step

/-! ### Rules -/

namespace Rule

variable {document : Value} {mostSteps : Option Int} {r : Rule}

/-- **A rule that was read is well formed.** So is each of its steps, whichever spelling they were
written in; there are no more of them than allowed; and compiling the rule never refuses it for its
combinators. -/
theorem read_wellFormed (h : read document mostSteps = .ok r) :
    (∀ s ∈ r.steps, s.WellFormed) ∧ (∀ most ∈ mostSteps, (r.steps.length : Int) ≤ most) ∧
      (r.steps.forM fun s => s.checkCombinators.mapError RuleError.read) = .ok () := by
  by_cases hopens : ∃ inputs steps, Opens document mostSteps inputs steps
  · obtain ⟨rawInputs, rawSteps, hopens⟩ := hopens
    rw [read_of_opens hopens] at h
    obtain ⟨inputs, -, h⟩ := bind_eq_ok.mp h
    obtain ⟨steps, hsteps, h⟩ := bind_eq_ok.mp h
    obtain rfl := Except.ok.inj h
    have hwell : ∀ s ∈ steps, s.WellFormed := fun s hs => by
      obtain ⟨⟨raw, i⟩, -, hs⟩ := (mem_of_mapM_eq_ok hsteps).2 s hs
      exact Step.wellFormed_read hs
    refine ⟨hwell, fun most hmost => ?_, forM_eq_ok_of_forall fun s hs => ?_⟩
    · have hlength : steps.length = rawSteps.length := by
        simpa using length_of_mapM_eq_ok hsteps
      exact hlength ▸ hopens.bounded most hmost
    · exact mapError_eq_ok.mpr (s.checkCombinators_eq_ok_iff.mpr (hwell s hs).joined)
  · obtain ⟨refusal, hrefusal⟩ := exists_refusal_of_not_opens fun inputs steps h =>
      hopens ⟨inputs, steps, h⟩
    exact nomatch hrefusal.symm.trans h

end Rule

/-! ### A rule of one branch -/

/-- A reference to an input, in two lists. -/
def nestedInput : Value :=
  .record [("type", .text "array"), ("value", .list [.record [("type", .text "array"),
    ("value", .list [.record [("type", .text "inputParam"), ("value", .text "x")]])]])]

/-- A branch on two conditions that compare such references, in the older spelling. -/
def nestedBranch : Value :=
  .record [("id", .text "b"), ("type", .text "condition"),
    ("next_step", .record [("onTrue", .text "b")]),
    ("conditions", .list [
      .record [("lhs", nestedInput), ("operator", .text "EQ"), ("rhs", nestedInput)],
      .record [("lhs", nestedInput), ("operator", .text "GT"), ("rhs", nestedInput),
        ("combinator", .text "or")]])]

/-- A document in the older spelling. Its only step is the branch. -/
def nestedDocument : Value :=
  .record [("id", .text "r"), ("ruleFunction", .record [("steps", .list [nestedBranch])])]

/-- What `nestedBranch` is read as. -/
def nestedStep : Step :=
  let side := Source.array [.array [.input "x"]]
  ⟨"b", .branch [⟨side, .eq, side, none⟩, ⟨side, .gt, side, some .or⟩] (some "b") none⟩

theorem read_nestedInput (path : String) :
    Source.read nestedInput path = .ok (.array [.array [.input "x"]]) := by
  have hinner : ∀ path, Source.read (.record [("type", .text "inputParam"), ("value", .text "x")])
      path = .ok (.input "x") := fun path => (Source.read_record _ path).trans rfl
  have hlist : ∀ item source path, (item.field? "type").isSome = true →
      (∀ path, Source.read item path = .ok source) →
      Source.read (.record [("type", .text "array"), ("value", .list [item])]) path =
        .ok (.array [source]) := by
    intro item source path hitem hread
    rw [Source.read_record]
    change (Source.readItems [item] path 0).map Source.array = _
    rw [Source.readItems_cons, Source.readItem, if_pos hitem, hread, Source.readItems]
    rfl
  exact hlist _ _ path rfl fun path => hlist _ _ path rfl hinner

set_option maxRecDepth 10000 in
theorem read_nestedBranch (path : String) : Step.read nestedBranch path = .ok nestedStep := by
  have hcondition : ∀ fields i path operator combinator,
      Step.side (.record fields) "lhs" = nestedInput →
      Step.side (.record fields) "rhs" = nestedInput →
      (∀ path, Operator.read ((Value.record fields).field "operator") path = .ok operator) →
      (∀ path, Step.readCombinator (.record fields) i path = .ok combinator) →
      Step.readCondition (.record fields) i path =
        .ok ⟨.array [.array [.input "x"]], operator, .array [.array [.input "x"]], combinator⟩ := by
    intro fields i path operator combinator hlhs hrhs hoperator hcombinator
    rw [Step.readCondition, hcombinator, hlhs, hrhs, hoperator]
    dsimp only [bind, Except.bind]
    rw [read_nestedInput, read_nestedInput]
    rfl
  rw [nestedBranch, Step.read]
  change ((Step.readBranch _ _ _ _).mapError _ >>= _) = _
  rw [Step.readBranch]
  change (Except.mapError _ (List.mapM _ (_ :: _ :: []) >>= _) >>= _) = _
  rw [List.mapM_cons, List.mapM_cons]
  dsimp only
  rw [hcondition _ _ _ .eq none rfl rfl (fun _ => rfl) fun _ => rfl,
    hcondition _ _ _ .gt (some .or) rfl rfl (fun _ => rfl) fun _ => rfl]
  rfl

theorem read_nestedDocument :
    Rule.read nestedDocument (some 1) = .ok { id := "r", name := "r", steps := [nestedStep] } := by
  have hnamed : Rule.Named nestedDocument := Rule.named_of_text rfl rfl
  rw [Rule.read_of_opens ⟨hnamed, rfl, rfl, by decide⟩, Rule.readSteps]
  change ((Step.read _ _ >>= _) >>= _) = _
  rw [read_nestedBranch]
  rfl

/-- **The step of that document** is well formed. -/
theorem nestedStep_wellFormed :
    Rule.read nestedDocument (some 1) =
        .ok { id := "r", name := "r", steps := [nestedStep] } ∧
      (∀ s ∈ [nestedStep], s.WellFormed) ∧
      (∀ most ∈ some (1 : Int), (([nestedStep].length : Nat) : Int) ≤ most) ∧
      ([nestedStep].forM fun s => s.checkCombinators.mapError RuleError.read) = .ok () :=
  ⟨read_nestedDocument, Rule.read_wellFormed read_nestedDocument⟩

end RuleFlow
