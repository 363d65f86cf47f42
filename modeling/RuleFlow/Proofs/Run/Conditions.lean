import RuleFlow.Proofs.Run.Course

/-!
# Conditions in runs

A run evaluates the conditions of a branch on the values that it has come to. This file tells what
that can end in: the run goes on at one of the two targets, it ends with the failure that reports
mismatched sides, or a condition escapes, and a fault is raised.

## The invariant

What a condition reads was checked when the rule was compiled, whatever functions were at hand, so
that both sides always have a value. All that is left is what the comparison of these values comes
to, which `RuleFlow.Proofs.Value.Comparison` tells.

* `RuleFlow.CompiledRule.Derails` are the branches that come to a condition that escapes.
* `RuleFlow.Rule.Compilation.proceeds` is the invariant, for every state of a run.
* `RuleFlow.Rule.conditions_closed` is the result.
-/

namespace RuleFlow

namespace CompiledRule

variable {c : CompiledRule} {context : Context} {s : Step} {condition : Condition}
  {conditions : List Condition}

/-! ### One condition -/

/-- **A condition escapes**: its sides have values whose comparison is unguarded. -/
def Escapes (c : CompiledRule) (context : Context) (condition : Condition) : Prop :=
  ∃ left right, context.resolve condition.lhs = .ok left ∧
    context.resolve condition.rhs = .ok right ∧
    Value.Unguarded condition.operator left (condition.lhs.type c.types) right
      (condition.rhs.type c.types)

/-- What a halt tells that reports mismatched sides. -/
def Mismatched (halt : Halt) : Prop :=
  ∃ message, halt = .refused FailureCode.typeMismatch message

/-- A condition that does not escape is true, false, or mismatched. -/
theorem ends_holds_of_not_escapes (hsides : HasSides context condition)
    (h : ¬c.Escapes context condition) :
    Ends (c.holds context condition) (fun _ => True) Mismatched := by
  obtain ⟨⟨left, hleft⟩, right, hright⟩ := hsides
  rw [holds, hleft, hright]
  have hguarded : ¬Value.Unguarded condition.operator left (condition.lhs.type c.types) right
      (condition.rhs.type c.types) := fun hunguarded => h ⟨left, right, hleft, hright, hunguarded⟩
  refine (Value.ends_compare_of_guarded hguarded).mapError ?_
  rintro _ rfl
  exact ⟨_, rfl⟩

/-- A condition that escapes raises a fault. -/
theorem Escapes.exists_holds_eq (h : c.Escapes context condition) :
    ∃ f, c.holds context condition = .error (.error (.fault f)) := by
  obtain ⟨left, right, hleft, hright, hunguarded⟩ := h
  obtain ⟨f, hf, -⟩ := Value.compare_of_unguarded hunguarded
  refine ⟨f, ?_⟩
  rw [holds, hleft, hright]
  simp only [bind, Except.bind, hf]
  rfl

/-! ### The conditions of a branch -/

/-- **A branch derails**: its conditions are true or false up to one that escapes. -/
def Derails (c : CompiledRule) (context : Context) (conditions : List Condition) : Prop :=
  ∃ passed condition rest, conditions = passed ++ condition :: rest ∧
    (∀ before ∈ passed, ∃ b, c.holds context before = .ok b) ∧ c.Escapes context condition

/-- Conditions that do not derail have a truth or are mismatched. -/
theorem ends_joined_of_not_derails (hsides : ∀ condition ∈ conditions, HasSides context condition)
    (h : ¬c.Derails context conditions) (before : Value) :
    Ends (c.joined context before conditions) (fun _ => True) Mismatched := by
  refine ends_joined_of_holds (fun passed condition rest hsplit hpassed => ?_) before
  refine ends_holds_of_not_escapes (hsides condition (by simp [hsplit])) fun hescapes => ?_
  exact h ⟨passed, condition, rest, hsplit, hpassed, hescapes⟩

/-- **The first condition that halts** halts the branch. Every condition is evaluated, whatever
those before it have decided. -/
theorem joined_eq_error_of_first {passed rest : List Condition} {halt : Halt}
    (hpassed : ∀ before ∈ passed, ∃ b, c.holds context before = .ok b)
    (hhalts : c.holds context condition = .error halt) (before : Value) :
    c.joined context before (passed ++ condition :: rest) = .error halt := by
  induction passed generalizing before with
  | nil => rw [List.nil_append, joined, hhalts]
  | cons first passed ih =>
    obtain ⟨⟨b, hb⟩, hpassed⟩ := List.forall_mem_cons.mp hpassed
    rw [List.cons_append, joined, hb]
    dsimp only
    split
    · exact ih hpassed _
    · exact ih hpassed _

/-- Conditions that derail raise a fault. -/
theorem Derails.exists_joined_eq (h : c.Derails context conditions) (before : Value) :
    ∃ f, c.joined context before conditions = .error (.error (.fault f)) := by
  obtain ⟨passed, condition, rest, rfl, hpassed, hescapes⟩ := h
  obtain ⟨f, hf⟩ := hescapes.exists_holds_eq
  exact ⟨f, joined_eq_error_of_first hpassed hf before⟩

/-! ### Branches -/

variable {onTrue onFalse : Option String}

theorem perform_branch (c : CompiledRule) (context : Context)
    (haction : s.action = .branch conditions onTrue onFalse) :
    c.perform context s = (c.joined context .null conditions).map fun matched =>
      .onward context (if matched.truthy then onTrue else onFalse) := by
  simp only [perform, haction]
  cases c.joined context .null conditions with
  | ok matched => rfl
  | error halt => rfl

end CompiledRule

namespace Rule

variable {r : Rule} {registry : Registry} {a : Analysis} {c : CompiledRule} {context : Context}
  {s : Step}

/-- **The invariant of a run**: wherever it comes, there is a next step, and what it reads was
produced on the way. -/
theorem Compilation.proceeds (h : r.Compilation registry a c) {start : Context}
    (hstart : c.Arrives start c.entry) {target : Option String}
    (hreaches : c.Reaches start (some c.entry) context target) :
    c.Proceeds (.onward context target) := by
  refine hreaches.proceeds_of_step (fun context s hs harrives progress hperform => ?_)
    ⟨c.entry, h.entry_mem, rfl, hstart⟩
  have htargets : ∀ target ∈ s.targets, ∃ id ∈ c.rule.ids, target = some id := by
    rw [h.rule] at hs ⊢
    exact fun target htarget => h.checked.exists_target hs htarget
  exact harrives.proceeds hs htargets ((c.ends_perform_inside context s).of_ok hperform)

/-- Wherever a run comes to a branch, both sides of each condition have a value. -/
theorem Compilation.hasSides (h : r.Compilation registry a c)
    (harrives : c.Arrives context s.id) (hs : s ∈ c.rule.steps) {conditions : List Condition}
    {onTrue onFalse : Option String} (haction : s.action = .branch conditions onTrue onFalse) :
    ∀ condition ∈ conditions, CompiledRule.HasSides context condition := by
  have hsource : ∀ source ∈ s.sources, ∃ v, context.resolve source = .ok v := by
    intro source hsource
    rw [h.rule] at hs
    refine Context.exists_resolve source (h.literals s hs source hsource) ?_
    refine harrives.supplies_of_known fun reference href => ?_
    rw [h.rule, h.entry]
    exact h.checked.known_of_reference hs hsource href
  have hreads : c.reads s = s.sources := by rw [CompiledRule.reads, haction]
  intro condition hmem
  have hmems := CompiledRule.mem_reads_of_branch (c := c) haction hmem
  rw [hreads] at hmems
  exact ⟨hsource _ hmems.1, hsource _ hmems.2⟩

/-- **Conditions are closed, unless one escapes.** A comparison answers with a truth value or
refuses its sides as mismatched exactly if it is guarded. So, whatever the inputs, wherever a run of
a compiled rule comes to a branch that does not derail, the run goes on at one of the two targets or
is told to have failed with the code of mismatched sides; where the branch derails, the run raises a
fault. -/
theorem conditions_closed (h : r.compile registry = .ok c) (inputs : Value) :
    (∀ op left leftType right rightType,
      Value.Closed op left leftType right rightType ↔
        ¬Value.Unguarded op left leftType right rightType) ∧
      ∀ start, Context.seed r.inputs (inputs.orElse (.record [])) = .ok start →
        ∀ context id s conditions onTrue onFalse,
          c.Reaches start (some c.entry) context (some id) → c.rule.step? id = some s →
          s.action = .branch conditions onTrue onFalse →
          (¬c.Derails context conditions →
            (∃ target, c.perform context s = .ok (.onward context target)) ∨
              ∃ message, ∀ limit : Int, r.steps.length ≤ limit →
                c.execute inputs limit = .ok (.failure FailureCode.typeMismatch message)) ∧
          (c.Derails context conditions →
            ∃ f, ∀ limit : Int, r.steps.length ≤ limit →
              c.execute inputs limit = .error (.fault f)) := by
  refine ⟨fun _ _ _ _ _ => Value.closed_iff, ?_⟩
  intro start hstart context id s conditions onTrue onFalse hreaches hs haction
  obtain ⟨a, hcompilation⟩ := exists_compilation h
  obtain ⟨hmem, rfl⟩ := mem_of_step? hs
  have hseed : Context.seed c.rule.inputs (inputs.orElse (.record [])) = .ok start :=
    hcompilation.rule ▸ hstart
  obtain ⟨id, -, heq, harrives⟩ :=
    hcompilation.proceeds ((CompiledRule.ends_seed _).of_ok hseed) hreaches
  obtain rfl := Option.some.inj heq
  -- Where the step halts, the whole run is told so.
  have htold : ∀ halt, c.perform context s = .error halt → ∀ limit : Int,
      r.steps.length ≤ limit → c.execute inputs limit = CompiledRule.told (.error halt) := by
    intro halt hperform limit hlimit
    obtain ⟨ids, hexecutes⟩ := hreaches.exists_executes hseed hs hperform
    exact execute_eq_of_executes h hexecutes hlimit
  have hperform := c.perform_branch context haction
  constructor
  · intro hnot
    have hjoined := CompiledRule.ends_joined_of_not_derails
      (hcompilation.hasSides harrives hmem haction) hnot .null
    cases hresult : c.joined context .null conditions with
    | ok matched => exact .inl ⟨_, hperform.trans (by rw [hresult]; rfl)⟩
    | error halt =>
      obtain ⟨message, rfl⟩ := hjoined.of_error hresult
      exact .inr ⟨message, htold (.refused FailureCode.typeMismatch message)
        (hperform.trans (by rw [hresult]; rfl))⟩
  · intro hderails
    obtain ⟨f, hf⟩ := hderails.exists_joined_eq .null
    exact ⟨f, htold (.error (.fault f)) (hperform.trans (by rw [hf]; rfl))⟩

end Rule

/-! ### A rule that compares what it is given -/

/-- A rule that tells whether a value of any type is greater than one. -/
def threshold : Rule :=
  { id := "threshold", name := "Threshold"
    inputs := [{ name := "x", type := .any, mandatory := true }]
    steps :=
      [{ id := "check", action := .branch
          [{ lhs := .input "x", operator := .gt, rhs := .literal (.int 1) .any }]
          (some "high") (some "low") },
        { id := "high", action := .output (.success (.literal (.bool true) .boolean)) },
        { id := "low", action := .output (.success (.literal (.bool false) .boolean)) }] }

/-- What `threshold` is compiled to. -/
def thresholdCompiled : CompiledRule :=
  { rule := threshold, entry := "check", order := ["check", "low", "high"]
    calls := [], types := [("x", .any)]
    fingerprint := threshold.fingerprint
    version := Catalogue.version }

set_option maxRecDepth 10000 in
theorem threshold_compile : threshold.compile Catalogue.standard = .ok thresholdCompiled := rfl

theorem threshold_conditions_closed :
    threshold.compile Catalogue.standard = .ok thresholdCompiled ∧
      (∀ op left leftType right rightType,
        Value.Closed op left leftType right rightType ↔
          ¬Value.Unguarded op left leftType right rightType) ∧
      ∀ start, Context.seed threshold.inputs (.record [("x", .text "abc")]) = .ok start →
        ∀ context id s conditions onTrue onFalse,
          thresholdCompiled.Reaches start (some "check") context (some id) →
          threshold.step? id = some s → s.action = .branch conditions onTrue onFalse →
          (¬thresholdCompiled.Derails context conditions →
            (∃ target, thresholdCompiled.perform context s = .ok (.onward context target)) ∨
              ∃ message, ∀ limit : Int, 3 ≤ limit →
                thresholdCompiled.execute (.record [("x", .text "abc")]) limit =
                  .ok (.failure FailureCode.typeMismatch message)) ∧
          (thresholdCompiled.Derails context conditions →
            ∃ f, ∀ limit : Int, 3 ≤ limit →
              thresholdCompiled.execute (.record [("x", .text "abc")]) limit =
                .error (.fault f)) :=
  ⟨threshold_compile, Rule.conditions_closed threshold_compile (.record [("x", .text "abc")])⟩

/-- **An infinity of no declared type** is not refused as mismatched, neither in a comparison nor in
a run. -/
theorem infinity_not_closed :
    ¬Value.Closed .gt (.float (.infinite false)) .any (.int 1) .any ∧
      thresholdCompiled.execute (.record [("x", .float (.infinite false))]) =
        .error (.fault (.notFinite (.float (.infinite false)))) := by
  refine ⟨fun hclosed => ?_, rfl⟩
  exact Value.closed_iff.mp hclosed (.number rfl rfl (.inl rfl))

end RuleFlow
