import RuleFlow.Proofs.Program.Reread
import RuleFlow.Proofs.Run.Accepted

/-!
# Emitted programs stand for their rules

Emitting reads every literal once, and writes the value down; the engine reads it again in every
run. Emitting a compiled rule goes through, an emitted expression has the value of its source if
what is written down lasts, and the block of a step is the one that was emitted for it.

* `RuleFlow.Context.eval_of_emit`: an expression has the value of its source where the names inside
  have values and the values inside outlast being written.
* `RuleFlow.CompiledRule.Emitted` is what a program has of its rule: its names and bounds, and under
  the name of each step the statements of that step.
* `RuleFlow.CompiledRule.exists_emit`: emitting a compiled rule goes through.
-/

namespace RuleFlow

open Program

/-! ### Sources -/

mutual

/-- A source whose literals are read can be emitted. -/
theorem Source.exists_emit : ∀ source : Source, source.checkLiterals = .ok () →
    ∃ expr, source.emit = .ok expr
  | .literal v type, h => by
    rw [checkLiterals] at h
    obtain ⟨w, hw, -⟩ := map_eq_ok.mp h
    exact ⟨.literal w, by rw [emit, hw]; rfl⟩
  | .input name, _ => ⟨.named name, by rw [emit]⟩
  | .variable name, _ => ⟨.named name, by rw [emit]⟩
  | .array items, h => by
    rw [checkLiterals] at h
    obtain ⟨exprs, hexprs⟩ := exists_emitAll items (checkAllLiterals_iff.mp h)
    exact ⟨.list exprs, by rw [emit, hexprs]; rfl⟩

theorem Source.exists_emitAll : ∀ sources : List Source,
    (∀ source ∈ sources, source.checkLiterals = .ok ()) → ∃ exprs, emitAll sources = .ok exprs
  | [], _ => ⟨[], rfl⟩
  | source :: rest, h => by
    obtain ⟨hfirst, hrest⟩ := List.forall_mem_cons.mp h
    obtain ⟨expr, hexpr⟩ := exists_emit source hfirst
    obtain ⟨exprs, hexprs⟩ := exists_emitAll rest hrest
    exact ⟨expr :: exprs, by rw [emitAll, hexpr, hexprs]; rfl⟩

end

namespace Context

variable {context : Context}

/-- Two items of a list that are computed one after the other. -/
theorem resolveAll_cons_eq_ok {source : Source} {rest : List Source} {vs : List Value}
    (h : context.resolveAll (source :: rest) = .ok vs) :
    ∃ v ws, context.resolve source = .ok v ∧ context.resolveAll rest = .ok ws ∧ v :: ws = vs := by
  rw [resolveAll] at h
  split at h
  next => cases h
  next v hv =>
    obtain ⟨ws, hws, heq⟩ := map_eq_ok.mp h
    exact ⟨v, ws, hv, hws, heq⟩

theorem emitAll_cons_eq_ok {source : Source} {rest : List Source} {exprs : List Expr}
    (h : Source.emitAll (source :: rest) = .ok exprs) :
    ∃ expr others, source.emit = .ok expr ∧ Source.emitAll rest = .ok others ∧
      expr :: others = exprs := by
  rw [Source.emitAll] at h
  split at h
  next => cases h
  next expr hexpr =>
    obtain ⟨others, hothers, heq⟩ := map_eq_ok.mp h
    exact ⟨expr, others, hexpr, hothers, heq⟩

/-- **A name that has a value** stands for it in a source and in an expression. -/
theorem Knows.exists_named {name : String} (h : context.Knows name) :
    ∃ v, context.resolve (.input name) = .ok v ∧ context.resolve (.variable name) = .ok v ∧
      ∀ place, (Expr.named name).eval context.values place = .ok v := by
  obtain ⟨v, hv⟩ := h
  refine ⟨v, ?_, ?_, fun place => ?_⟩
  · rw [resolve, input, hv]
  · rw [resolve, result, hv]
  · rw [Expr.eval, hv]

mutual

/-- **An emitted expression has the value of its source**, where every name inside has a value and
every value inside outlasts being written. A name without a value is another place where the two
differ: the source of an input falls back on its default. -/
theorem eval_of_emit : ∀ {source : Source} {expr : Expr} {v : Value}, source.emit = .ok expr →
    (∀ v ∈ expr.written, v.Lasting) → context.Supplies source → context.resolve source = .ok v →
      ∀ place, expr.eval context.values place = .ok v
  | .literal u type, expr, v, hemit, hlasts, _, hv, place => by
    rw [Source.emit] at hemit
    obtain ⟨w, hw, rfl⟩ := map_eq_ok.mp hemit
    rw [resolve, hw] at hv
    obtain rfl : w = v := Except.ok.inj hv
    rw [Expr.eval, reread_of_lasting (hlasts w List.mem_cons_self)]
    rfl
  | .input name, expr, v, hemit, _, hsupplies, hv, place => by
    rw [Source.emit] at hemit
    obtain rfl := Except.ok.inj hemit
    obtain ⟨w, hinput, -, heval⟩ :=
      (hsupplies (.input name) (by simp [Source.references])).exists_named
    obtain rfl : w = v := Except.ok.inj (hinput.symm.trans hv)
    exact heval place
  | .variable name, expr, v, hemit, _, hsupplies, hv, place => by
    rw [Source.emit] at hemit
    obtain rfl := Except.ok.inj hemit
    obtain ⟨w, -, hresult, heval⟩ :=
      (hsupplies (.variable name) (by simp [Source.references])).exists_named
    obtain rfl : w = v := Except.ok.inj (hresult.symm.trans hv)
    exact heval place
  | .array items, expr, v, hemit, hlasts, hsupplies, hv, place => by
    rw [Source.emit] at hemit
    obtain ⟨exprs, hexprs, rfl⟩ := map_eq_ok.mp hemit
    rw [resolve] at hv
    obtain ⟨vs, hvs, rfl⟩ := map_eq_ok.mp hv
    rw [Expr.eval, evalAll_of_emitAll hexprs hlasts (supplies_array_iff.mp hsupplies) hvs]
    rfl

theorem evalAll_of_emitAll : ∀ {sources : List Source} {exprs : List Expr} {vs : List Value},
    Source.emitAll sources = .ok exprs → (∀ v ∈ Expr.writtenAll exprs, v.Lasting) →
      (∀ source ∈ sources, context.Supplies source) → context.resolveAll sources = .ok vs →
        ∀ place, Expr.evalAll context.values place exprs = .ok vs
  | [], exprs, vs, hemit, _, _, hvs, place => by
    obtain rfl := Except.ok.inj hemit
    rw [resolveAll] at hvs
    obtain rfl := Except.ok.inj hvs
    rw [Expr.evalAll]
  | source :: rest, exprs, vs, hemit, hlasts, hsupplies, hvs, place => by
    obtain ⟨expr, others, hexpr, hothers, rfl⟩ := emitAll_cons_eq_ok hemit
    obtain ⟨v, ws, hv, hws, rfl⟩ := resolveAll_cons_eq_ok hvs
    obtain ⟨hsource, hsources⟩ := List.forall_mem_cons.mp hsupplies
    obtain ⟨hexprLasts, hothersLast⟩ := List.forall_mem_append.mp hlasts
    rw [Expr.evalAll, eval_of_emit hexpr hexprLasts hsource hv]
    dsimp only
    rw [evalAll_of_emitAll hothers hothersLast hsources hws]
    rfl

end

end Context

namespace CompiledRule

variable {c : CompiledRule} {s : Step} {p : Program} {limit : Int} {id : String}

/-! ### Steps -/

theorem exists_emitCondition {condition : Condition}
    (hleft : condition.lhs.checkLiterals = .ok ()) (hright : condition.rhs.checkLiterals = .ok ()) :
    ∃ statement, c.emitCondition condition = .ok statement := by
  obtain ⟨left, hl⟩ := condition.lhs.exists_emit hleft
  obtain ⟨right, hr⟩ := condition.rhs.exists_emit hright
  rw [emitCondition, hl, hr]
  exact ⟨_, rfl⟩

/-- **A step that is ready can be emitted.** -/
theorem exists_emitStep (hready : c.Ready s) : ∃ statements, c.emitStep s = .ok statements := by
  have hliterals := hready.literals
  rw [emitStep.eq_def]
  split
  next result function arguments next haction =>
    obtain ⟨call, hcall⟩ := hready.bound (by simp [Step.result?, haction])
    rw [reads_of_call haction hcall] at hliterals
    obtain ⟨exprs, hexprs⟩ := Source.exists_emitAll call.args hliterals
    rw [hcall]
    dsimp only
    rw [hexprs]
    exact ⟨_, rfl⟩
  next conditions onTrue onFalse haction =>
    obtain ⟨statements, hstatements⟩ := exists_mapM_eq_ok fun condition hmem =>
      exists_emitCondition (c := c) (hliterals _ (mem_reads_of_branch haction hmem).1)
        (hliterals _ (mem_reads_of_branch haction hmem).2)
    rw [hstatements]
    exact ⟨_, rfl⟩
  next value haction =>
    obtain ⟨expr, hexpr⟩ :=
      value.exists_emit (hliterals value (by simp [reads, Step.sources, haction]))
    rw [hexpr]
    exact ⟨_, rfl⟩
  next code message haction =>
    obtain ⟨expr, hexpr⟩ :=
      message.exists_emit (hliterals message (by simp [reads, Step.sources, haction]))
    rw [hexpr]
    exact ⟨_, rfl⟩

/-! ### Whole programs -/

/-- **What a program is made of**: what the rule says, and one block for each step, in order. -/
structure Emitted (c : CompiledRule) (limit : Int) (p : Program) : Prop where
  /-- The rule is named. -/
  ruleId : p.ruleId = c.rule.id
  /-- The inputs are those of the rule. -/
  inputs : p.inputs = c.rule.inputs.map InputDecl.seed
  /-- The bound is the one asked for. -/
  limit : p.limit = limit
  /-- The first step is that of the rule. -/
  entry : p.entry = c.entry
  /-- The block of a step is the one emitted for it. -/
  block : ∀ s ∈ c.rule.steps, ∃ statements, p.block? s.id = some statements ∧
    c.emitStep s = .ok statements

/-- The block of a step, given the name of the step. -/
def emitBlock (c : CompiledRule) (id : String) : Except RuleError (String × List Statement) :=
  match c.rule.step? id with
  | none => .error (.fault (.noKey id))
  | some s => (c.emitStep s).map (id, ·)

theorem emitBlock_eq_ok_iff {name : String} {statements : List Statement} :
    c.emitBlock id = .ok (name, statements) ↔
      ∃ s, c.rule.step? id = some s ∧ c.emitStep s = .ok statements ∧ id = name := by
  rw [emitBlock]
  cases c.rule.step? id with
  | none => simp
  | some s => simp [map_eq_ok]

/-- What emitting takes over, and the blocks that it makes. -/
theorem blocks_of_emit (h : c.emit limit = .ok p) :
    c.order.mapM c.emitBlock = .ok p.blocks ∧ p.builtins = c.builtins ∧ p.entry = c.entry := by
  obtain ⟨blocks, hblocks, h⟩ := bind_eq_ok.mp h
  obtain rfl := Except.ok.inj h
  exact ⟨hblocks, rfl, rfl⟩

/-- **What is in a block** was emitted for a step. -/
theorem exists_emitStep_of_mem (h : c.emit limit = .ok p) {block : String × List Statement}
    (hblock : block ∈ p.blocks) : ∃ s ∈ c.rule.steps, c.emitStep s = .ok block.2 := by
  obtain ⟨id, -, hemitted⟩ := (mem_of_mapM_eq_ok (blocks_of_emit h).1).2 block hblock
  obtain ⟨s, hs, hstatements, -⟩ := emitBlock_eq_ok_iff.mp hemitted
  exact ⟨s, (Rule.mem_of_step? hs).1, hstatements⟩

/-- **Looking a block up** finds what was emitted for the step of that name. -/
theorem exists_find?_block (hunique : c.rule.ids.Nodup) {blocks : List (String × List Statement)}
    (hblocks : c.order.mapM c.emitBlock = .ok blocks) (hs : s ∈ c.rule.steps)
    (hid : s.id ∈ c.order) :
    ∃ statements, (blocks.find? fun block => block.1 == s.id) = some (s.id, statements) ∧
      c.emitStep s = .ok statements := by
  obtain ⟨hofStep, hofBlock⟩ := mem_of_mapM_eq_ok hblocks
  obtain ⟨⟨name, statements⟩, hmem, hemitted⟩ := hofStep s.id hid
  obtain ⟨_, -, -, rfl⟩ := emitBlock_eq_ok_iff.mp hemitted
  have hsome : (blocks.find? fun block => block.1 == s.id).isSome := by
    rw [List.find?_isSome]
    exact ⟨_, hmem, by simp⟩
  obtain ⟨⟨name, found⟩, hfound⟩ := Option.isSome_iff_exists.mp hsome
  -- Whichever block was found has the name, so it was emitted for the only step of that name.
  obtain ⟨id, -, hemitted'⟩ := hofBlock _ (List.mem_of_find?_eq_some hfound)
  obtain ⟨t, ht, hstatements, rfl⟩ := emitBlock_eq_ok_iff.mp hemitted'
  obtain rfl : id = s.id := by simpa using List.find?_some hfound
  obtain rfl : s = t := Option.some.inj ((Rule.step?_id hunique hs).symm.trans ht)
  exact ⟨found, hfound, hstatements⟩

/-- **Emitting a compiled rule goes through.** -/
theorem exists_emit (haccepted : c.Accepted) (limit : Int) :
    ∃ p, c.emit limit = .ok p ∧ c.Emitted limit p := by
  have hunique := haccepted.ordered.unique
  have hemits : ∀ id ∈ c.order, ∃ block, c.emitBlock id = .ok block := by
    intro id hid
    obtain ⟨s, hs, rfl⟩ := Rule.mem_ids.mp ((haccepted.ordered.mem_iff id).mp hid)
    obtain ⟨statements, hstatements⟩ := exists_emitStep (haccepted.ready s hs)
    exact ⟨(s.id, statements),
      emitBlock_eq_ok_iff.mpr ⟨s, Rule.step?_id hunique hs, hstatements, rfl⟩⟩
  obtain ⟨blocks, hblocks⟩ := exists_mapM_eq_ok hemits
  rw [emit]
  refine ⟨_, bind_eq_ok.mpr ⟨blocks, hblocks, rfl⟩, rfl, rfl, rfl, rfl, fun s hs => ?_⟩
  have hid := (haccepted.ordered.mem_iff s.id).mpr (Rule.id_mem_ids hs)
  obtain ⟨statements, hfound, hstatements⟩ := exists_find?_block hunique hblocks hs hid
  exact ⟨statements, congrArg (Option.map Prod.snd) hfound, hstatements⟩

end CompiledRule

end RuleFlow
