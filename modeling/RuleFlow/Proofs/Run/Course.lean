import RuleFlow.Proofs.Graph.Position
import RuleFlow.Proofs.Run.Safety

/-!
# The course of a run

What a run does depends on its bound only in so far as the bound cuts it off. Without a bound it
would execute certain steps and come to a certain result; this is its course. A run with a bound
follows the course as far as the bound allows.

* `RuleFlow.CompiledRule.Course` is the course from a state on, said without a bound.
* `RuleFlow.CompiledRule.Course.runFrom_eq` is the law of the bound: a run that may do all steps of
  the course comes to its result, and any other is stopped at the first step that it may not do.
* `RuleFlow.CompiledRule.exists_course`: where the steps stand in a sorted order a course exists,
  and its steps stand in that order.
* `RuleFlow.Rule.execute_bound` is the result for runs of compiled rules.
-/

namespace RuleFlow

/-! ### Halts at the bound -/

/-- **A halt at the bound** of a run. -/
def Halt.AtBound : Halt → Prop
  | .refused .. => False
  | .error e => e.kind? = some .stepLimitExceeded

theorem Halt.not_atBound_ofTrouble (ruleId : String) (t : Trouble) :
    ¬(Halt.ofTrouble ruleId t).AtBound := by
  cases t <;> simp [ofTrouble, AtBound, RuleError.kind?, RunError.kind]

namespace Value

theorem ends_literal_inside (v : Value) (type : DataType) :
    Ends (v.literal type) (fun _ => True) (fun e => ¬(Halt.error e).AtBound) := by
  rw [literal]
  split
  · trivial
  · split_ifs
    · simp [Halt.AtBound, RuleError.kind?, BindError.kind]
    · simp [Halt.AtBound, RuleError.kind?]

end Value

namespace Context

theorem ends_input_inside (context : Context) (name : String) :
    Ends (context.input name) (fun _ => True) (fun h => ¬h.AtBound) := by
  rw [input]
  split
  · trivial
  · split
    · split_ifs
      · simp [Halt.AtBound]
      · cases InputDecl.defaultValue _ with
        | ok v => trivial
        | error f => simp [Except.mapError, Halt.AtBound, RuleError.kind?]
    · simp [Halt.AtBound]

theorem ends_result_inside (context : Context) (name : String) :
    Ends (context.result name) (fun _ => True) (fun h => ¬h.AtBound) := by
  rw [result]
  split
  · trivial
  · simp [Halt.AtBound, RuleError.kind?, RunError.kind]

mutual

/-- No source halts a run at its bound. -/
theorem ends_resolve_inside (context : Context) :
    ∀ source : Source, Ends (context.resolve source) (fun _ => True) (fun h => ¬h.AtBound)
  | .literal v type => (v.ends_literal_inside type).mapError fun _ h => h
  | .input name => context.ends_input_inside name
  | .variable name => context.ends_result_inside name
  | .array items => (ends_resolveAll_inside context items).map fun _ _ => trivial

theorem ends_resolveAll_inside (context : Context) :
    ∀ sources : List Source,
      Ends (context.resolveAll sources) (fun _ => True) (fun h => ¬h.AtBound)
  | [] => trivial
  | source :: rest => by
    have hsource := ends_resolve_inside context source
    rw [resolveAll]
    split
    next h hh => exact hsource.of_error hh
    next => exact (ends_resolveAll_inside context rest).map fun _ _ => trivial

end

end Context

namespace CompiledRule

variable {c : CompiledRule} {context context' : Context} {s : Step} {id : String}
  {target : Option String} {ids : List String} {result : Except Halt Outcome}

/-! ### One step -/

theorem ends_holds_inside (c : CompiledRule) (context : Context) (condition : Condition) :
    Ends (c.holds context condition) (fun _ => True) (fun h => ¬h.AtBound) := by
  refine (context.ends_resolve_inside condition.lhs).bind fun left _ => ?_
  refine (context.ends_resolve_inside condition.rhs).bind fun right _ => ?_
  exact (Value.ends_compare ..).mapError fun t _ => Halt.not_atBound_ofTrouble c.rule.id t

theorem ends_joined_inside (c : CompiledRule) (context : Context) (conditions : List Condition)
    (before : Value) :
    Ends (c.joined context before conditions) (fun _ => True) (fun h => ¬h.AtBound) :=
  ends_joined_of_holds (fun _ condition _ _ _ => c.ends_holds_inside context condition) before

/-- **One step**, whatever the context: what it passes on, and that it does not halt at the
bound. -/
theorem ends_perform_inside (c : CompiledRule) (context : Context) (s : Step) :
    Ends (c.perform context s) (PassesOn s context) (fun h => ¬h.AtBound) := by
  cases haction : s.action with
  | call name function arguments next =>
    simp only [perform, haction]
    split
    next => simp [Halt.AtBound, RuleError.kind?]
    next call _ =>
      refine (context.ends_resolveAll_inside call.args).bind fun args _ => ?_
      split
      next v _ => exact passesOn_of_call haction v
      next => trivial
  | branch conditions onTrue onFalse =>
    simp only [perform, haction]
    refine (c.ends_joined_inside context conditions .null).bind fun matched _ => ?_
    exact passesOn_of_branch haction matched
  | output report =>
    simp only [perform, haction]
    have hreported : Ends (reported context report) (fun _ => True) (fun h => ¬h.AtBound) := by
      cases report with
      | success value => exact (context.ends_resolve_inside value).map fun _ _ => trivial
      | failure code message =>
        exact (context.ends_resolve_inside message).map fun _ _ => trivial
    exact hreported.map fun _ _ => trivial

/-! ### Courses -/

/-- **The course of a run** from a state on: the steps that it executes if nothing bounds it, in
order, and what it comes to. -/
inductive Course (c : CompiledRule) :
    Context → Option String → List String → Except Halt Outcome → Prop
  /-- There is no step to go on at. -/
  | incomplete {context : Context} :
      Course c context none [] (.error (.error (.run (.incomplete c.rule.id))))
  /-- The step to go on at is none of the rule. -/
  | missing {context : Context} {id : String} : c.rule.step? id = none →
      Course c context (some id) [id] (.error (.error (.fault (.noKey id))))
  /-- The step halts. -/
  | halted {context : Context} {id : String} {s : Step} {h : Halt} : c.rule.step? id = some s →
      c.perform context s = .error h → Course c context (some id) [id] (.error h)
  /-- The step ends the run. -/
  | finished {context : Context} {id : String} {s : Step} {outcome : Outcome} :
      c.rule.step? id = some s → c.perform context s = .ok (.finished outcome) →
      Course c context (some id) [id] (.ok outcome)
  /-- The run goes on through the step. -/
  | onward {context context' : Context} {id : String} {s : Step} {target : Option String}
      {ids : List String} {result : Except Halt Outcome} : c.rule.step? id = some s →
      c.perform context s = .ok (.onward context' target) → Course c context' target ids result →
      Course c context (some id) (id :: ids) result

/-- **The law of the bound**: a run follows its course, and is stopped at the first step that is
over its bound. -/
theorem Course.runFrom_eq (h : c.Course context target ids result) (limit : Int) (left : Nat) :
    c.runFrom limit left context target =
      match ids[left]? with
      | some id => .error (.error (.run (.stepLimit c.rule.id limit id)))
      | none => result := by
  induction h generalizing left with
  | incomplete => rw [runFrom]; rfl
  | missing hs =>
    cases left with
    | zero => rfl
    | succ left => rw [runFrom, hs]; rfl
  | halted hs hperform =>
    cases left with
    | zero => rfl
    | succ left => rw [runFrom, hs]; dsimp only; rw [hperform]; rfl
  | finished hs hperform =>
    cases left with
    | zero => rfl
    | succ left => rw [runFrom, hs]; dsimp only; rw [hperform]; rfl
  | onward hs hperform _ ih =>
    cases left with
    | zero => rfl
    | succ left =>
      rw [runFrom, hs]
      dsimp only
      rw [hperform]
      exact ih left

/-- **No course halts at a bound.** -/
theorem Course.not_atBound (h : c.Course context target ids result) {halt : Halt}
    (hhalt : result = .error halt) : ¬halt.AtBound := by
  induction h with
  | incomplete =>
    cases hhalt
    simp [Halt.AtBound, RuleError.kind?, RunError.kind]
  | missing _ =>
    cases hhalt
    simp [Halt.AtBound, RuleError.kind?]
  | @halted context _ s _ _ hperform =>
    cases hhalt
    exact (c.ends_perform_inside context s).of_error hperform
  | finished _ _ => cases hhalt
  | onward _ _ _ ih => exact ih hhalt

/-- Where a run goes from a state, it comes to the same result as from there on. -/
theorem Reaches.course {start : Context} {first : Option String}
    (h : c.Reaches start first context target) (hcourse : c.Course context target ids result) :
    ∃ before, c.Course start first (before ++ ids) result := by
  induction h generalizing ids with
  | start => exact ⟨[], hcourse⟩
  | @onward context context' id s target _ hs hperform ih =>
    obtain ⟨before, h⟩ := ih (.onward hs hperform hcourse)
    exact ⟨before ++ [id], by simpa using h⟩

/-- **A course exists** from every step of a sorted sequence, and its steps are some of the sequence
in their order. Each step passes on to a step behind it, so the induction is on the sequence. -/
theorem exists_course {order : List String} (h : Graph.Sorted c.rule.successors order)
    (hid : id ∈ order) (context : Context) :
    ∃ ids result, c.Course context (some id) ids result ∧ ids.Sublist order := by
  induction h generalizing id context with
  | nil => exact absurd hid List.not_mem_nil
  | @cons v rest _ hsucc _ ih =>
    rcases List.mem_cons.mp hid with rfl | hid
    · have hone : [id].Sublist (id :: rest) := (List.nil_sublist rest).cons_cons id
      cases hs : c.rule.step? id with
      | none => exact ⟨_, _, .missing hs, hone⟩
      | some s =>
        have hpasses := c.ends_perform_inside context s
        cases hperform : c.perform context s with
        | error halt => exact ⟨_, _, .halted hs hperform, hone⟩
        | ok progress =>
          cases progress with
          | finished outcome => exact ⟨_, _, .finished hs hperform, hone⟩
          | onward context' target =>
            have htarget : target ∈ s.targets := (hpasses.of_ok hperform).1
            cases target with
            | none => exact ⟨_, _, .onward hs hperform .incomplete, hone⟩
            | some next =>
              have hnext : next ∈ rest := by
                refine hsucc next ?_
                simpa [Rule.successors, hs] using Step.mem_successors.mpr htarget
              obtain ⟨ids, result, hcourse, hsub⟩ := ih hnext context'
              exact ⟨_, _, .onward hs hperform hcourse, hsub.cons_cons id⟩
    · obtain ⟨ids, result, hcourse, hsub⟩ := ih hid context
      exact ⟨ids, result, hcourse, hsub.cons v⟩

/-! ### Whole runs -/

/-- What a caller is told of a run. -/
def told : Except Halt Outcome → Except RuleError Outcome
  | .ok outcome => .ok outcome
  | .error (.refused code message) => .ok (.failure code message)
  | .error (.error e) => .error e

theorem execute_eq_told (inputs : Value) (limit : Int) :
    c.execute inputs limit = told (c.run (inputs.orElse (.record [])) limit) :=
  rfl

/-- **What a run executes** if nothing bounds it, and what a caller is told then. No step is
executed if the inputs are refused. -/
def Executes (c : CompiledRule) (inputs : Value) (ids : List String)
    (outcome : Except RuleError Outcome) : Prop :=
  match Context.seed c.rule.inputs (inputs.orElse (.record [])) with
  | .ok start => ∃ result, c.Course start (some c.entry) ids result ∧ outcome = told result
  | .error t => ids = [] ∧ outcome = told (.error (Halt.ofTrouble c.rule.id t))

namespace Executes

variable {inputs : Value} {outcome : Except RuleError Outcome}

/-- The law of the bound for a whole run. A bound below zero allows as much as none. -/
theorem execute_eq (h : c.Executes inputs ids outcome) (limit : Int) :
    c.execute inputs limit =
      match ids[limit.toNat]? with
      | some id => .error (.run (.stepLimit c.rule.id limit id))
      | none => outcome := by
  rw [execute_eq_told, run]
  rw [Executes] at h
  cases hseed : Context.seed c.rule.inputs (inputs.orElse (.record [])) with
  | error t =>
    rw [hseed] at h
    obtain ⟨rfl, rfl⟩ := h
    rfl
  | ok start =>
    rw [hseed] at h
    obtain ⟨result, hcourse, rfl⟩ := h
    change told (c.runFrom limit limit.toNat start (some c.entry)) = _
    rw [hcourse.runFrom_eq]
    split
    · rfl
    · rfl

/-- What a caller is told of an unbounded run is not that it was stopped at a bound. -/
theorem kind?_ne (h : c.Executes inputs ids outcome) {e : RuleError} (he : outcome = .error e) :
    e.kind? ≠ some .stepLimitExceeded := by
  have htold : ∀ result, told result = .error e → result = .error (.error e) := by
    intro result hresult
    rcases result with (⟨code, message⟩ | e') | outcome'
    · exact nomatch hresult
    · exact congrArg (fun e => Except.error (Halt.error e)) (Except.error.inj hresult)
    · exact nomatch hresult
  rw [Executes] at h
  split at h
  next start _ =>
    obtain ⟨result, hcourse, rfl⟩ := h
    exact hcourse.not_atBound (htold result he)
  next t _ =>
    obtain ⟨-, rfl⟩ := h
    have hhalt := Except.error.inj (htold _ he)
    exact fun hkind => Halt.not_atBound_ofTrouble c.rule.id t (hhalt ▸ hkind)

/-- **A run is stopped by its bound** exactly if the bound is less than the number of steps that the
run executes without one. -/
theorem stopped_iff (h : c.Executes inputs ids outcome) (limit : Int) :
    (∃ e, c.execute inputs limit = .error e ∧ e.kind? = some .stepLimitExceeded) ↔
      limit.toNat < ids.length := by
  have hexecute := h.execute_eq limit
  constructor
  · rintro ⟨e, he, hkind⟩
    by_contra hlt
    rw [List.getElem?_eq_none (not_lt.mp hlt)] at hexecute
    exact h.kind?_ne (hexecute.symm.trans he) hkind
  · intro hlt
    rw [List.getElem?_eq_getElem hlt] at hexecute
    exact ⟨_, hexecute, rfl⟩

end Executes

/-- What a caller is told of an unbounded run is determined. -/
theorem Executes.outcome_eq {inputs : Value} {ids' : List String}
    {outcome outcome' : Except RuleError Outcome} (h : c.Executes inputs ids outcome)
    (h' : c.Executes inputs ids' outcome') : outcome = outcome' := by
  -- A bound that neither run comes to.
  have hexecute := h.execute_eq (max ids.length ids'.length : ℕ)
  have hexecute' := h'.execute_eq (max ids.length ids'.length : ℕ)
  rw [Int.toNat_natCast, List.getElem?_eq_none (by omega)] at hexecute hexecute'
  exact hexecute.symm.trans hexecute'

/-- A run that comes to a step that halts executes the steps up to there. -/
theorem Reaches.exists_executes {inputs : Value} {start : Context}
    (hstart : Context.seed c.rule.inputs (inputs.orElse (.record [])) = .ok start)
    (h : c.Reaches start (some c.entry) context (some id)) (hs : c.rule.step? id = some s)
    {halt : Halt} (hperform : c.perform context s = .error halt) :
    ∃ ids, c.Executes inputs ids (told (.error halt)) := by
  obtain ⟨before, hcourse⟩ := h.course (.halted hs hperform)
  refine ⟨before ++ [id], ?_⟩
  rw [Executes, hstart]
  exact ⟨_, hcourse, rfl⟩

end CompiledRule

namespace Rule

variable {r : Rule} {registry : Registry} {c : CompiledRule}

/-- **Every run of a compiled rule has a course**, of some of the steps in their order. -/
theorem exists_executes (h : r.compile registry = .ok c) (inputs : Value) :
    c.order.Nodup ∧ ∃ ids outcome, c.Executes inputs ids outcome ∧ ids.Sublist c.order ∧
      ids.length ≤ r.steps.length := by
  obtain ⟨a, hcompilation⟩ := exists_compilation h
  obtain rfl := hcompilation.rule
  have hordered := hcompilation.ordered
  have hentry : c.entry ∈ c.order := (hordered.mem_iff _).mpr hcompilation.entry_mem
  have hlength : c.order.length = c.rule.steps.length :=
    hordered.perm_ids.length_eq.trans (List.length_map _)
  refine ⟨hordered.sorted.nodup, ?_⟩
  cases hseed : Context.seed c.rule.inputs (inputs.orElse (.record [])) with
  | error t =>
    refine ⟨[], CompiledRule.told (.error (Halt.ofTrouble c.rule.id t)), ?_, List.nil_sublist _,
      Nat.zero_le _⟩
    rw [CompiledRule.Executes, hseed]
    exact ⟨rfl, rfl⟩
  | ok start =>
    obtain ⟨ids, result, hcourse, hsub⟩ :=
      CompiledRule.exists_course hordered.sorted hentry start
    refine ⟨ids, CompiledRule.told result, ?_, hsub, hlength ▸ hsub.length_le⟩
    rw [CompiledRule.Executes, hseed]
    exact ⟨result, hcourse, rfl⟩

/-- **A bound of as many steps as the rule has** bounds nothing. -/
theorem execute_eq_of_executes (h : r.compile registry = .ok c) {inputs : Value}
    {ids : List String} {outcome : Except RuleError Outcome}
    (hexecutes : c.Executes inputs ids outcome) {limit : Int} (hlimit : r.steps.length ≤ limit) :
    c.execute inputs limit = outcome := by
  obtain ⟨-, ids', outcome', hexecutes', -, hle⟩ := exists_executes h inputs
  rw [hexecutes'.execute_eq, List.getElem?_eq_none (by omega), hexecutes'.outcome_eq hexecutes]

/-- **Runs and their bounds.** Whatever the inputs, a run of a compiled rule executes certain steps,
each later in the order than the one before it and so none of them twice, and comes to a certain
outcome. With a bound it is stopped exactly if the bound is less than the number of these steps, and
comes to that outcome with any other bound. -/
theorem execute_bound (h : r.compile registry = .ok c) (inputs : Value) :
    ∃ ids outcome, c.Executes inputs ids outcome ∧ ids.length ≤ r.steps.length ∧
      ids.Pairwise (fun id later => c.order.idxOf id < c.order.idxOf later) ∧ ids.Nodup ∧
      ∀ limit : Int,
        ((∃ e, c.execute inputs limit = .error e ∧ e.kind? = some .stepLimitExceeded) ↔
          limit.toNat < ids.length) ∧
        (ids.length ≤ limit.toNat → c.execute inputs limit = outcome) := by
  obtain ⟨hnodup, ids, outcome, hexecutes, hsub, hle⟩ := exists_executes h inputs
  refine ⟨ids, outcome, hexecutes, hle, (pairwise_idxOf hnodup).sublist hsub, hsub.nodup hnodup,
    fun limit => ⟨hexecutes.stopped_iff limit, fun hinside => ?_⟩⟩
  rw [hexecutes.execute_eq, List.getElem?_eq_none hinside]

end Rule

theorem excerpt_execute_bound :
    excerpt.compile Catalogue.standard = .ok excerptCompiled ∧
      ∃ ids outcome, excerptCompiled.Executes (.record [("count", .int 3)]) ids outcome ∧
        ids.length ≤ excerpt.steps.length ∧
        ids.Pairwise
          (fun id later => excerptCompiled.order.idxOf id < excerptCompiled.order.idxOf later) ∧
        ids.Nodup ∧
        ∀ limit : Int,
          ((∃ e, excerptCompiled.execute (.record [("count", .int 3)]) limit = .error e ∧
              e.kind? = some .stepLimitExceeded) ↔ limit.toNat < ids.length) ∧
          (ids.length ≤ limit.toNat →
            excerptCompiled.execute (.record [("count", .int 3)]) limit = outcome) :=
  ⟨excerpt_compile, Rule.execute_bound excerpt_compile (.record [("count", .int 3)])⟩

end RuleFlow
