import RuleFlow.Proofs.Program.Lasting
import RuleFlow.Proofs.Run.Safety

/-!
# Emitted programs and the engine agree

The program of a rule and the engine do the same thing in two ways. The engine follows the steps of
the rule, reads literals as it meets them and keeps declarations beside its values; the program goes
from block to block over registers, and has its values as literals, which it reads back from its own
text. This file shows that they end alike on all inputs and under every bound, if the values that
are written in the program outlast that.

## The simulation

A state of the engine is a context and a step to go on at, a state of the program is its registers;
they stand for each other where the named values and the step are the same. Step by step, the engine
and the program come to states that stand for each other again
(`RuleFlow.CompiledRule.mirrors_execAll`). What the other registers hold does not matter: a block
writes them before it reads them.

* `RuleFlow.CompiledRule.agrees_loop` carries the simulation through a whole run.
* `RuleFlow.Ending` is what a caller sees of a run, and `RuleFlow.Rule.emit_agrees` is the result.
* `RuleFlow.likewise` is a rule whose program does something else, as a value in it does not last.
-/

namespace RuleFlow

open Program

/-! ### What a caller sees of a run -/

/-- **How a run ends**, as its caller sees it: an outcome, an error by its kind and wording, or a
fault. -/
inductive Ending where
  /-- The run came to an outcome. -/
  | outcome (outcome : Outcome)
  /-- The run raised an error. -/
  | raised (kind message : String)
  /-- The run ran into a fault. -/
  | fault (f : Fault)

/-- The ending that a run comes to. -/
def Ending.of : Except RuleError Outcome → Ending
  | .ok o => .outcome o
  | .error (.fault f) => .fault f
  | .error e => .raised e.kindName e.message

/-! ### States that stand for each other -/

/-- **The program mirrors the engine** in one step: both end the run with one outcome, both go on in
states that stand for each other, or both are halted by the same trouble. -/
inductive Mirrors (ruleId : String) : Except Halt Progress → Except Trouble Flow → Prop
  /-- Both end the run. -/
  | finished (outcome : Outcome) :
      Mirrors ruleId (.ok (.finished outcome)) (.ok (.returned outcome))
  /-- Both go on. -/
  | onward {context : Context} {target : Option String} {registers : Registers} :
      registers.context = context.values → registers.step = target →
      Mirrors ruleId (.ok (.onward context target)) (.ok (.onward registers))
  /-- Both are halted. -/
  | halted (t : Trouble) : Mirrors ruleId (.error (Halt.ofTrouble ruleId t)) (.error t)

/-- **The program agrees with the engine** on a whole run. Only a bound that is met is told in two
ways. -/
inductive Agrees (ruleId : String) (limit : Int) :
    Except Halt Outcome → Except Trouble Outcome → Prop
  /-- Both come to one outcome. -/
  | outcome (outcome : Outcome) : Agrees ruleId limit (.ok outcome) (.ok outcome)
  /-- Both are halted by the same trouble on values. -/
  | halted {t : Trouble} : t.Ordinary →
      Agrees ruleId limit (.error (Halt.ofTrouble ruleId t)) (.error t)
  /-- Both have taken too many steps. -/
  | exceeded (id : String) :
      Agrees ruleId limit (.error (.error (.run (.stepLimit ruleId limit id))))
        (.error (.stepLimit s!"{limitText ruleId}{limit} steps"))

theorem Trouble.ordinary_of_halt {t : Trouble} {ruleId : String}
    (h : (Halt.ofTrouble ruleId t).Ordinary) : t.Ordinary := by
  cases t with
  | refused code message => trivial
  | fault f => exact h
  | internal message => exact h
  | stepLimit message => exact h

namespace CompiledRule

variable {c : CompiledRule} {context : Context} {s : Step} {p : Program} {limit : Int}
  {registers : Registers} {place : List Nat} {round : Nat}

/-! ### Sources -/

/-- **A source has one value on both sides**: where the engine finds it in a context, its expression
is evaluated to it over the named values of the program, if what is written in it lasts. -/
def Shares (context : Context) (values : Keyed Value) (source : Source) : Prop :=
  ∀ expr, source.emit = .ok expr → (∀ v ∈ expr.written, v.Lasting) →
    ∃ v, context.resolve source = .ok v ∧ ∀ place, expr.eval values place = .ok v

/-- Where a run arrives, everything that the step reads has one value on both sides. -/
theorem Arrives.shares (harrives : c.Arrives context s.id) (hready : c.Ready s)
    (hcontext : registers.context = context.values) :
    ∀ source ∈ c.reads s, Shares context registers.context source := by
  intro source hsource expr hexpr hlasts
  obtain ⟨v, hv⟩ := harrives.exists_resolve hready source hsource
  have hsupplies := harrives.supplies hready source hsource
  exact ⟨v, hv, hcontext ▸ Context.eval_of_emit hexpr hlasts hsupplies hv⟩

/-! ### Conditions -/

/-- The value that a condition leaves, given that of the conditions before it. -/
def joinedWith (condition : Condition) (before : Value) (b : Bool) : Value :=
  condition.combinator.elim (.bool b) fun combinator => combinator.join before (.bool b)

/-- **One condition**: its statement leaves in the register what the engine carries on. -/
theorem exec_of_emitCondition (place : List Nat) {condition : Condition} {statement : Statement}
    (before : Value)
    (hemit : c.emitCondition condition = .ok statement)
    (hlasts : ∀ v ∈ statement.written, v.Lasting)
    (hleft : Shares context registers.context condition.lhs)
    (hright : Shares context registers.context condition.rhs)
    (hbefore : condition.combinator ≠ none → registers.matched = some before) :
    Ends (c.holds context condition)
      (fun b => statement.exec place registers =
        .ok (.onward { registers with matched := some (joinedWith condition before b) }))
      (fun e => ∃ t, e = Halt.ofTrouble c.rule.id t ∧
        statement.exec place registers = .error t) := by
  obtain ⟨left, hl, hemit⟩ := bind_eq_ok.mp hemit
  obtain ⟨right, hr, hemit⟩ := bind_eq_ok.mp hemit
  obtain rfl := Except.ok.inj hemit
  obtain ⟨hleftLasts, hrightLasts⟩ := List.forall_mem_append.mp hlasts
  obtain ⟨v, hv, hevalLeft⟩ := hleft left hl hleftLasts
  obtain ⟨w, hw, hevalRight⟩ := hright right hr hrightLasts
  have hcompared : Statement.exec.compared place registers condition.operator left
      (condition.lhs.type c.types) right (condition.rhs.type c.types) =
        Value.compare condition.operator v (condition.lhs.type c.types) w
          (condition.rhs.type c.types) := by
    rw [Statement.exec.compared, hevalLeft, hevalRight]
    rfl
  rw [holds, hv, hw]
  change Ends ((Value.compare ..).mapError _) _ _
  cases hcompare : Value.compare condition.operator v (condition.lhs.type c.types) w
      (condition.rhs.type c.types) with
  | error t =>
    refine ⟨t, rfl, ?_⟩
    cases hcombinator : condition.combinator with
    | none =>
      rw [Statement.exec, hcompared, hcompare]
      rfl
    | some combinator =>
      rw [Statement.exec, Registers.readMatched, hbefore (by simp [hcombinator]), hcompared,
        hcompare]
      rfl
  | ok b =>
    change Statement.exec _ _ _ = _
    rw [joinedWith]
    cases hcombinator : condition.combinator with
    | none =>
      rw [Statement.exec, hcompared, hcompare]
      rfl
    | some combinator =>
      rw [Statement.exec, Registers.readMatched, hbefore (by simp [hcombinator]), hcompared,
        hcompare]
      rfl

theorem joined_cons {condition : Condition} {rest : List Condition} {before : Value} :
    c.joined context before (condition :: rest) = (do
      let b ← c.holds context condition
      c.joined context (joinedWith condition before b) rest) := by
  rw [joined]
  cases c.holds context condition with
  | error e => rfl
  | ok b => cases h : condition.combinator <;> simp [joinedWith, h, bind, Except.bind]

/-- **All conditions of a branch**, the first of which joins nothing: their statements leave in the
register the truth that the engine finds. -/
theorem execAll_of_emitConditions (round : Nat) {conditions : List Condition}
    {statements : List Statement}
    (before : Value) (hemit : conditions.mapM c.emitCondition = .ok statements)
    (hlasts : ∀ statement ∈ statements, ∀ v ∈ statement.written, v.Lasting)
    (hshares : ∀ condition ∈ conditions, Shares context registers.context condition.lhs ∧
      Shares context registers.context condition.rhs)
    (hbefore : (∃ first rest, conditions = first :: rest ∧ first.combinator = none) ∨
      registers.matched = some before) (after : List Statement) :
    Ends (c.joined context before conditions)
      (fun v => execAll round registers (statements ++ after) =
        execAll round { registers with matched := some v } after)
      (fun e => ∃ t, e = Halt.ofTrouble c.rule.id t ∧
        execAll round registers (statements ++ after) = .error t) := by
  induction conditions generalizing statements before registers with
  | nil =>
    obtain rfl := Except.ok.inj hemit
    obtain ⟨_, _, h, -⟩ | hmatched := hbefore
    · exact nomatch h
    · change execAll round registers after = _
      rw [← hmatched]
  | cons condition rest ih =>
    obtain ⟨statement, others, hstatement, hothers, rfl⟩ := mapM_cons_eq_ok.mp hemit
    obtain ⟨⟨hleft, hright⟩, hrest⟩ := List.forall_mem_cons.mp hshares
    obtain ⟨hfirstLasts, hrestLast⟩ := List.forall_mem_cons.mp hlasts
    -- Only the first condition may find the register empty, and it does not read it.
    have hone := exec_of_emitCondition [(others ++ after).length, round] before hstatement
      hfirstLasts hleft hright
      (fun hne => hbefore.resolve_left (by
        rintro ⟨first, others, heq, hfirst⟩
        injection heq with heq _
        exact hne (heq ▸ hfirst)))
    rw [joined_cons]
    refine (hone.mono (fun _ h => h) ?_).bind fun b hexec => ?_
    · rintro e ⟨t, rfl, ht⟩
      exact ⟨t, rfl, by rw [List.cons_append, execAll, ht]⟩
    · rw [List.cons_append, execAll, hexec]
      exact ih _ hothers hrestLast hrest (.inr rfl)

/-! ### Steps -/

/-- The block of a call runs through where the call succeeds, and ends the run where it fails. -/
theorem execAll_call {builtin : Builtin} {exprs : List Expr} {args : List Value}
    (heval : ∀ place, Expr.evalAll registers.context place exprs = .ok args) (result : String)
    (next : Option String) :
    execAll round registers [.call builtin exprs, .returnFailure, .keep result, .goTo next] =
      match builtin.invoke args with
      | .success v => .ok (.onward { registers with
          context := registers.context.set result v
          step := next
          result := some (.success v) })
      | .failure code message => .ok (.returned (.failure code message)) := by
  cases h : builtin.invoke args <;>
    simp [execAll, Statement.exec, heval, h, Registers.readResult, bind, Except.bind, pure,
      Except.pure]

section Steps

variable {statements : List Statement} (hready : c.Ready s) (harrives : c.Arrives context s.id)
  (hcontext : registers.context = context.values) (hemit : c.emitStep s = .ok statements)
  (hlasts : ∀ statement ∈ statements, ∀ v ∈ statement.written, v.Lasting)

include hready harrives hcontext hemit hlasts

theorem mirrors_call {result function : String} {arguments : List Argument} {next : Option String}
    (haction : s.action = .call result function arguments next) :
    Mirrors c.rule.id (c.perform context s) (execAll round registers statements) := by
  obtain ⟨call, hcall⟩ := hready.bound (by simp [Step.result?, haction])
  have hreads := reads_of_call haction hcall
  have hsupplies := hreads ▸ harrives.supplies hready
  obtain ⟨args, hargs⟩ :=
    Context.exists_resolveAll call.args (hreads ▸ hready.literals) hsupplies
  simp only [emitStep, haction, hcall] at hemit
  obtain ⟨exprs, hexprs, hemit⟩ := bind_eq_ok.mp hemit
  obtain rfl := Except.ok.inj hemit
  have heval := Context.evalAll_of_emitAll hexprs (hlasts _ List.mem_cons_self) hsupplies hargs
  rw [execAll_call (hcontext ▸ heval)]
  simp only [perform, haction, hcall, hargs, bind, Except.bind]
  cases call.function.builtin.invoke args with
  | success v => exact .onward (by rw [hcontext]; rfl) rfl
  | failure code message => exact .finished _

theorem mirrors_branch {conditions : List Condition} {onTrue onFalse : Option String}
    (haction : s.action = .branch conditions onTrue onFalse) :
    Mirrors c.rule.id (c.perform context s) (execAll round registers statements) := by
  simp only [emitStep, haction] at hemit
  obtain ⟨statements', hstatements, hemit⟩ := bind_eq_ok.mp hemit
  obtain rfl := Except.ok.inj hemit
  have hshares := harrives.shares hready hcontext
  have hjoined := execAll_of_emitConditions round .null hstatements
    (fun statement hmem => hlasts statement (List.mem_append_left _ hmem))
    (fun condition hmem => ⟨hshares _ (mem_reads_of_branch haction hmem).1,
      hshares _ (mem_reads_of_branch haction hmem).2⟩)
    (.inl (hready.conditions conditions onTrue onFalse haction)) [.goToEither onTrue onFalse]
  simp only [perform, haction]
  cases hmatched : c.joined context .null conditions with
  | error e =>
    obtain ⟨t, rfl, ht⟩ := hjoined.of_error hmatched
    rw [ht]
    exact .halted t
  | ok matched =>
    rw [hjoined.of_ok hmatched]
    exact .onward hcontext rfl

theorem mirrors_output {report : Report} (haction : s.action = .output report) :
    Mirrors c.rule.id (c.perform context s) (execAll round registers statements) := by
  have hshares := harrives.shares hready hcontext
  cases report with
  | success value =>
    simp only [emitStep, haction] at hemit
    obtain ⟨expr, hexpr, rfl⟩ := map_eq_ok.mp hemit
    obtain ⟨v, hv, heval⟩ := hshares value (by simp [reads, Step.sources, haction]) expr hexpr
      (hlasts _ List.mem_cons_self)
    simp only [perform, haction, reported, hv, execAll, Statement.exec, heval]
    exact .finished _
  | failure code message =>
    simp only [emitStep, haction] at hemit
    obtain ⟨expr, hexpr, rfl⟩ := map_eq_ok.mp hemit
    obtain ⟨v, hv, heval⟩ := hshares message (by simp [reads, Step.sources, haction]) expr hexpr
      fun v hv => hlasts _ List.mem_cons_self v (List.mem_cons_of_mem _ hv)
    simp only [perform, haction, reported, hv, execAll, Statement.exec, heval]
    exact .finished _

/-- **One step**: where the engine performs a step, the program executes the block of the step, and
the two come to states that stand for each other. -/
theorem mirrors_execAll (round : Nat) :
    Mirrors c.rule.id (c.perform context s) (execAll round registers statements) := by
  cases haction : s.action with
  | call result function arguments next =>
    exact mirrors_call hready harrives hcontext hemit hlasts haction
  | branch conditions onTrue onFalse =>
    exact mirrors_branch hready harrives hcontext hemit hlasts haction
  | output report => exact mirrors_output hready harrives hcontext hemit hlasts haction

end Steps

/-! ### Whole runs -/

/-- **The loop of the program agrees with the run of the engine**, from states that stand for each
other. -/
theorem agrees_loop (haccepted : c.Accepted) (hemitted : c.Emitted limit p) (hlasts : p.Lasts)
    (left : Nat)
    {id : String} (hid : id ∈ c.rule.ids) (harrives : c.Arrives context id)
    (hcontext : registers.context = context.values) (hstep : registers.step = some id) :
    Agrees c.rule.id limit (c.runFrom limit left context (some id)) (p.loop left registers) := by
  induction left generalizing context registers id with
  | zero =>
    rw [runFrom, loop, hstep]
    dsimp only
    rw [hemitted.ruleId, hemitted.limit]
    exact .exceeded id
  | succ left ih =>
    obtain ⟨s, hs, rfl⟩ := Rule.mem_ids.mp hid
    have hready := haccepted.ready s hs
    obtain ⟨statements, hblock, hstatements⟩ := hemitted.block s hs
    have hmirrors := mirrors_execAll hready harrives hcontext hstatements
      (hlasts.of_block? hblock) left
    have hperform := ends_perform hready hs harrives
    rw [runFrom, loop, hstep, Rule.step?_id haccepted.ordered.unique hs]
    dsimp only
    rw [hblock]
    dsimp only
    -- From here on only what the step came to matters, on either side.
    generalize c.perform context s = progress at hmirrors hperform
    generalize execAll left registers statements = flow at hmirrors
    cases hmirrors with
    | finished outcome => exact .outcome outcome
    | halted t => exact .halted (Trouble.ordinary_of_halt hperform)
    | onward hcontext' hstep' =>
      obtain ⟨id, hid, rfl, harrives'⟩ := hperform
      exact ih hid harrives' hcontext' hstep'

/-- **A program agrees with the engine** on all inputs. -/
theorem agrees_call (haccepted : c.Accepted) (hemitted : c.Emitted limit p) (hlasts : p.Lasts)
    (inputs : Value) :
    Agrees c.rule.id limit (c.run (inputs.orElse (.record [])) limit) (p.call inputs) := by
  rw [run, call_eq hlasts.load_eq, hemitted.inputs, hemitted.limit, hemitted.entry]
  have hseed := c.ends_seed (inputs.orElse (.record []))
  rw [Context.seed] at hseed ⊢
  cases hvalues : Seed.context (c.rule.inputs.map InputDecl.seed) (inputs.orElse (.record [])) with
  | error t =>
    rw [hvalues] at hseed
    exact .halted hseed
  | ok values =>
    rw [hvalues] at hseed
    exact agrees_loop haccepted hemitted hlasts limit.toNat haccepted.entry hseed rfl rfl

end CompiledRule

/-- **Emitted programs and the engine agree.** Whatever the inputs and the bound, a rule that was
compiled against the standard catalogue can be emitted. If the values in the program outlast being
written, as they do if those in the rule do, running the program ends as running the rule does: with
one outcome, with an error of one kind and wording, or with one fault. -/
theorem Rule.emit_agrees {r : Rule} {c : CompiledRule} (h : r.compile Catalogue.standard = .ok c)
    (inputs : Value) (limit : Int) :
    ∃ p, c.emit limit = .ok p ∧ (r.Lasts → Value.Lasting (.int limit) → p.Lasts) ∧
      (p.Lasts → Ending.of (p.run inputs) = Ending.of (c.execute inputs limit)) := by
  obtain ⟨-, haccepted⟩ := accepted_of_compile Catalogue.defaultsRead h
  obtain ⟨p, hp, hemitted⟩ := CompiledRule.exists_emit haccepted limit
  refine ⟨p, hp, fun hr => hr.of_emit h hp, fun hlasts => ?_⟩
  have hagrees := CompiledRule.agrees_call haccepted hemitted hlasts inputs
  unfold Program.run CompiledRule.execute
  generalize c.run (inputs.orElse (.record [])) limit = engine at hagrees
  generalize p.call inputs = program at hagrees
  cases hagrees with
  | outcome o => rfl
  | @halted t ht =>
    cases t with
    | refused code message => rfl
    | fault f => rfl
    | internal message => exact ht.elim
    | stepLimit message => exact ht.elim
  | exceeded id =>
    -- The program has its wording in two pieces, with the bound between them.
    have hmessage : s!"{limitText c.rule.id}{limit} steps" =
        s!"Rule {c.rule.id} exceeded {limit} steps" := by
      simp [limitText, String.append_assoc, toString]
    exact congrArg (Ending.raised ErrorKind.stepLimitExceeded.name) hmessage

/-- The values in `excerpt` last: no default and a text, and it tells no error. -/
theorem excerpt_lasts : excerpt.Lasts where
  literals := List.forall_mem_cons.mpr ⟨.null, List.forall_mem_singleton.mpr (.text "abcdef")⟩
  codes := by
    intro s hs code message haction
    rcases List.mem_cons.mp hs with rfl | hs
    · cases haction
    · obtain rfl := List.mem_singleton.mp hs
      cases haction

/-- The program of `excerpt` and the engine agree on what comes of three characters. -/
theorem excerpt_emit_agrees :
    excerpt.compile Catalogue.standard = .ok excerptCompiled ∧ excerpt.Lasts ∧
      ∃ p, excerptCompiled.emit 10 = .ok p ∧ p.Lasts ∧
        Ending.of (p.run (.record [("count", .int 3)])) =
          Ending.of (excerptCompiled.execute (.record [("count", .int 3)]) 10) := by
  obtain ⟨p, hp, hlasting, hagrees⟩ :=
    Rule.emit_agrees excerpt_compile (.record [("count", .int 3)]) 10
  have hbound : (Value.int 10).Lasting :=
    .int_of_lt (by decide : (10 : Int).natAbs < Number.tenPow 2) (by decide)
  have hlasts : p.Lasts := hlasting excerpt_lasts hbound
  exact ⟨excerpt_compile, excerpt_lasts, p, hp, hlasts, hagrees hlasts⟩

/-! ### A rule whose program does something else -/

/-- A list in which there is a double that is not a number. -/
def unequalList : Value :=
  .list [.float (.nan .document)]

/-- A rule that compares a list with itself, which has the same double in both places. -/
def likewise : Rule :=
  { id := "likewise", name := "Likewise"
    steps :=
      [{ id := "compare", action := .branch
          [{ lhs := .literal unequalList .any, operator := .eq, rhs := .literal unequalList .any }]
          (some "alike") (some "apart") },
        { id := "alike", action := .output (.success (.literal (.bool true) .boolean)) },
        { id := "apart", action := .output (.success (.literal (.bool false) .boolean)) }] }

/-- What `likewise` is compiled to. -/
def likewiseCompiled : CompiledRule :=
  { rule := likewise, entry := "compare", order := ["compare", "apart", "alike"]
    calls := [], types := []
    fingerprint := likewise.fingerprint
    version := Catalogue.version }

set_option maxRecDepth 10000 in
theorem likewise_compile : likewise.compile Catalogue.standard = .ok likewiseCompiled := rfl

/-- The program of `likewise`. -/
def likewiseProgram : Program :=
  { ruleId := "likewise", ruleName := "Likewise"
    fingerprint := likewise.fingerprint
    version := Catalogue.version
    builtins := [], inputs := [], limit := 10, entry := "compare"
    blocks :=
      [("compare",
        [.compare none .eq (.literal unequalList) .any (.literal unequalList) .any,
          .goToEither (some "alike") (some "apart")]),
        ("apart", [.returnValue (.literal (.bool false))]),
        ("alike", [.returnValue (.literal (.bool true))])] }

theorem likewise_emit : likewiseCompiled.emit 10 = .ok likewiseProgram := rfl

theorem likewiseProgram_load : likewiseProgram.load = .ok [] := by
  have hwritten : likewiseProgram.written =
      [.int 10, unequalList, unequalList, .bool false, .bool true] := rfl
  have hbound : (Value.int 10).Lasting :=
    .int_of_lt (by decide : (10 : Int).natAbs < Number.tenPow 2) (by decide)
  rw [load_eq, rereadDefaults.eq_def]
  · rfl
  · rw [hwritten]
    simp only [List.forall_mem_cons, List.not_mem_nil, false_imp_iff, implies_true, and_true]
    exact ⟨hbound.check, rfl, rfl, rfl, rfl⟩
  · rw [hwritten]
    simp only [List.forall_mem_cons, List.not_mem_nil, false_imp_iff, implies_true, and_true]
    exact ⟨⟨_, reread_of_lasting hbound []⟩, ⟨_, reread_nan _ _⟩, ⟨_, reread_nan _ _⟩,
      ⟨_, reread_of_lasting (.bool _) []⟩, ⟨_, reread_of_lasting (.bool _) []⟩⟩

/-- The program reads the list twice, and has two doubles. -/
theorem likewise_compared (place : List Nat) (r : Registers) :
    Statement.exec.compared place r .eq (.literal unequalList) .any (.literal unequalList) .any =
      .ok false := by
  rw [Statement.exec.compared, Expr.eval, Expr.eval, unequalList, reread_nan, reread_nan]
  rfl

/-- So it goes on at the other step than the engine. -/
theorem likewiseProgram_loop :
    likewiseProgram.loop 10 { context := [], step := some "compare" } =
      .ok (.success (.bool false)) := by
  have hcompare : likewiseProgram.block? "compare" =
      some [.compare none .eq (.literal unequalList) .any (.literal unequalList) .any,
        .goToEither (some "alike") (some "apart")] := rfl
  have hapart : likewiseProgram.block? "apart" =
      some [.returnValue (.literal (.bool false))] := rfl
  have hfirst : execAll 9 { context := [], step := some "compare" }
      [.compare none .eq (.literal unequalList) .any (.literal unequalList) .any,
        .goToEither (some "alike") (some "apart")] =
        .ok (.onward { context := [], step := some "apart", matched := some (.bool false) }) := by
    rw [execAll, Statement.exec, likewise_compared]
    rfl
  have hsecond : execAll 8
      { context := [], step := some "apart", matched := some (.bool false) }
      [.returnValue (.literal (.bool false))] = .ok (.returned (.success (.bool false))) := by
    rw [execAll, Statement.exec, Expr.eval, reread_of_lasting (.bool false)]
    rfl
  simp only [loop, hcompare, hfirst, hapart, hsecond]

/-- **The program of a rule can do something else than the rule.** The engine finds the list equal
to itself, as the double in it is the same one in both places. -/
theorem likewise_emit_differs :
    likewise.compile Catalogue.standard = .ok likewiseCompiled ∧
      likewiseCompiled.emit 10 = .ok likewiseProgram ∧
      likewiseCompiled.execute (.record []) 10 = .ok (.success (.bool true)) ∧
      likewiseProgram.run (.record []) = .ok (.success (.bool false)) := by
  refine ⟨likewise_compile, likewise_emit, rfl, run_of_call ?_⟩
  have hcontext : Seed.context [] ((Value.record []).orElse (.record [])) = .ok [] := rfl
  have hlimit : likewiseProgram.limit.toNat = 10 := rfl
  rw [call_eq likewiseProgram_load, hcontext, hlimit]
  dsimp only [bind, Except.bind]
  exact likewiseProgram_loop

end RuleFlow
