import RuleFlow.Proofs.Firsts
import RuleFlow.Proofs.Program.Emission
import RuleFlow.Proofs.Registry.Scope

/-!
# Emitted programs are closed

A program brings along the bodies of the functions that it invokes, and its loop has a block for
each step. What is brought along is collected from the calls of the compiled rule, while invocations
are written step by step. This file shows that the two fit: no name in a program is left undefined,
and nothing is there twice or for nothing.

* `RuleFlow.Program.invoked` and `RuleFlow.Program.targets` are what a program refers to, and
  `RuleFlow.Program.branches` are the steps that its loop has a block for.
* `RuleFlow.Program.step_of_execAll`: a block goes on at nothing but what it refers to, and
  `RuleFlow.Program.Closed.exists_step_of_comes`: a run comes to no step without a block, if what is
  referred to is there.
* `RuleFlow.CompiledRule.invoked_of_emitStep` and `RuleFlow.CompiledRule.targets_of_emitStep` tell
  what the block of one step refers to.
* `RuleFlow.Rule.Compilation.mem_builtins_iff` and `RuleFlow.Rule.Compilation.mem_invoked_iff` tell
  of both lists that they come from the calls.
* `RuleFlow.Rule.emit_closed` is the result.
-/

namespace RuleFlow

open Program

/-! ### What a program refers to -/

namespace Program

/-- The function that a statement invokes. -/
def Statement.invoked? : Statement → Option Builtin
  | .call builtin _ => some builtin
  | _ => none

/-- The steps that a statement may choose to go on at. -/
def Statement.targets : Statement → List (Option String)
  | .goTo target => [target]
  | .goToEither onTrue onFalse => [onTrue, onFalse]
  | _ => []

/-- **The functions that a program invokes**, at every place where it does. -/
def invoked (p : Program) : List Builtin :=
  p.blocks.flatMap fun block => block.2.filterMap Statement.invoked?

/-- **The steps that a program may go on at**: the first one, and those that its blocks choose. -/
def targets (p : Program) : List (Option String) :=
  some p.entry :: p.blocks.flatMap fun block => block.2.flatMap Statement.targets

/-- **The steps that the loop of a program has a block for.** -/
def branches (p : Program) : List String :=
  p.blocks.map (·.1)

variable {place : List Nat} {round : Nat} {r r' : Registers} {statement : Statement}
  {statements : List Statement}

/-- **One statement** leaves the step to go on at alone, or sets it to one of its targets. -/
theorem step_of_exec (h : statement.exec place r = .ok (.onward r')) :
    r'.step = r.step ∨ r'.step ∈ statement.targets := by
  cases statement with
  | call builtin args =>
    obtain ⟨vs, -, h⟩ := bind_eq_ok.mp h
    obtain rfl := Flow.onward.inj (Except.ok.inj h)
    exact .inl rfl
  | returnFailure =>
    obtain ⟨outcome, -, h⟩ := bind_eq_ok.mp h
    cases outcome with
    | success v =>
      obtain rfl := Flow.onward.inj (Except.ok.inj h)
      exact .inl rfl
    | failure code message => exact nomatch h
  | keep name =>
    obtain ⟨outcome, -, h⟩ := bind_eq_ok.mp h
    cases outcome with
    | success v =>
      obtain rfl := Flow.onward.inj (Except.ok.inj h)
      exact .inl rfl
    | failure code message => exact nomatch h
  | compare combinator operator left leftType right rightType =>
    cases combinator with
    | none =>
      obtain ⟨b, -, h⟩ := bind_eq_ok.mp h
      obtain rfl := Flow.onward.inj (Except.ok.inj h)
      exact .inl rfl
    | some combinator =>
      obtain ⟨before, -, h⟩ := bind_eq_ok.mp h
      obtain ⟨b, -, h⟩ := bind_eq_ok.mp h
      obtain rfl := Flow.onward.inj (Except.ok.inj h)
      exact .inl rfl
  | goTo target =>
    obtain rfl := Flow.onward.inj (Except.ok.inj h)
    exact .inr List.mem_cons_self
  | goToEither onTrue onFalse =>
    obtain ⟨matched, -, h⟩ := bind_eq_ok.mp h
    obtain rfl := Flow.onward.inj (Except.ok.inj h)
    right
    dsimp only [Statement.targets]
    split_ifs <;> simp
  | returnValue value =>
    obtain ⟨v, -, h⟩ := map_eq_ok.mp h
    exact nomatch h
  | returnError code message =>
    obtain ⟨v, -, h⟩ := map_eq_ok.mp h
    exact nomatch h

/-- **A block** goes on where it was, or at a target of one of its statements. -/
theorem step_of_execAll (h : execAll round r statements = .ok (.onward r')) :
    r'.step = r.step ∨ r'.step ∈ statements.flatMap Statement.targets := by
  induction statements generalizing r with
  | nil =>
    obtain rfl := Flow.onward.inj (Except.ok.inj h)
    exact .inl rfl
  | cons statement rest ih =>
    rw [execAll] at h
    split at h
    next r₁ hexec =>
      rw [List.flatMap_cons, List.mem_append]
      rcases ih h with hstep | htarget
      · rw [hstep]
        exact (step_of_exec hexec).imp_right .inl
      · exact .inr (.inr htarget)
    next hother => exact absurd h (hother r')

variable {p : Program} {block : String × List Statement}

/-- **A program is closed** if it has a block for every step that it may go on at, and it never goes
on at no step. -/
def Closed (p : Program) : Prop :=
  ∀ target ∈ p.targets, ∃ id ∈ p.branches, target = some id

/-- **The states that the loop of a program comes to** from a first one, through one block after the
other. -/
inductive Comes (p : Program) (start : Registers) : Registers → Prop
  /-- The loop begins. -/
  | start : Comes p start start
  /-- The loop goes on behind a block. -/
  | onward {round : Nat} {r r' : Registers} {id : String} {statements : List Statement} :
      Comes p start r → r.step = some id → p.block? id = some statements →
      execAll round r statements = .ok (.onward r') → Comes p start r'

/-- **A block of a closed program** goes on at a step that there is a block for. -/
theorem Closed.exists_step_of_execAll (hclosed : p.Closed) (hblock : block ∈ p.blocks)
    (hstep : r.step = some block.1) (hexec : execAll round r block.2 = .ok (.onward r')) :
    ∃ id ∈ p.branches, r'.step = some id := by
  rcases step_of_execAll hexec with hstay | htarget
  · exact ⟨block.1, List.mem_map_of_mem hblock, hstay.trans hstep⟩
  · exact hclosed _ (List.mem_cons_of_mem _ (List.mem_flatMap.mpr ⟨block, hblock, htarget⟩))

/-- **A run of a closed program** comes to no step without a block. -/
theorem Closed.exists_step_of_comes (hclosed : p.Closed) {start : Registers}
    (hstart : start.step = some p.entry) (h : p.Comes start r) :
    ∃ id ∈ p.branches, r.step = some id := by
  induction h with
  | start =>
    obtain ⟨id, hid, heq⟩ := hclosed _ List.mem_cons_self
    exact ⟨id, hid, hstart.trans heq⟩
  | onward _ hstep hfound hexec =>
    obtain ⟨block, hfind, rfl⟩ := Option.map_eq_some_iff.mp hfound
    obtain rfl : block.1 = _ := by simpa using List.find?_some hfind
    exact hclosed.exists_step_of_execAll (List.mem_of_find?_eq_some hfind) hstep hexec

end Program

/-! ### What the block of a step refers to -/

namespace CompiledRule

variable {c : CompiledRule} {s : Step} {statements : List Statement}

/-- The call that a step is bound to. Other steps have none. -/
def called? (c : CompiledRule) (s : Step) : Option BoundCall :=
  match s.action with
  | .call .. => c.calls.find? s.id
  | _ => none

/-- Conditions invoke nothing and choose no step. -/
theorem refers_of_emitConditions {conditions : List Condition}
    (h : conditions.mapM c.emitCondition = .ok statements) :
    statements.filterMap Statement.invoked? = [] ∧ statements.flatMap Statement.targets = [] := by
  have hplain : ∀ statement ∈ statements,
      statement.invoked? = none ∧ statement.targets = [] := by
    intro statement hmem
    obtain ⟨condition, -, hemit⟩ := (mem_of_mapM_eq_ok h).2 statement hmem
    obtain ⟨left, -, hemit⟩ := bind_eq_ok.mp hemit
    obtain ⟨right, -, hemit⟩ := bind_eq_ok.mp hemit
    obtain rfl := Except.ok.inj hemit
    exact ⟨rfl, rfl⟩
  constructor
  · exact List.filterMap_eq_nil_iff.mpr fun statement hmem => (hplain statement hmem).1
  · exact List.flatMap_eq_nil_iff.mpr fun statement hmem => (hplain statement hmem).2

/-- **The block of a step invokes** the function that the step is bound to, and no other. -/
theorem invoked_of_emitStep (h : c.emitStep s = .ok statements) :
    statements.filterMap Statement.invoked? =
      ((c.called? s).map (·.function.builtin)).toList := by
  rw [emitStep.eq_def] at h
  rw [called?]
  split at h
  next result function arguments next haction =>
    rw [haction]
    dsimp only
    split at h
    next => cases h
    next call hcall =>
      obtain ⟨args, -, h⟩ := bind_eq_ok.mp h
      obtain rfl := Except.ok.inj h
      rw [hcall]
      rfl
  next conditions onTrue onFalse haction =>
    obtain ⟨tests, htests, h⟩ := bind_eq_ok.mp h
    obtain rfl := Except.ok.inj h
    rw [haction, List.filterMap_append, (refers_of_emitConditions htests).1]
    rfl
  next value haction =>
    obtain ⟨expr, -, rfl⟩ := map_eq_ok.mp h
    rw [haction]
    rfl
  next code message haction =>
    obtain ⟨expr, -, rfl⟩ := map_eq_ok.mp h
    rw [haction]
    rfl

/-- **The block of a step chooses** the steps that may follow it. -/
theorem targets_of_emitStep (h : c.emitStep s = .ok statements) :
    statements.flatMap Statement.targets = s.targets := by
  rw [emitStep.eq_def] at h
  rw [Step.targets]
  split at h
  next result function arguments next haction =>
    rw [haction]
    split at h
    next => cases h
    next call hcall =>
      obtain ⟨args, -, h⟩ := bind_eq_ok.mp h
      obtain rfl := Except.ok.inj h
      rfl
  next conditions onTrue onFalse haction =>
    obtain ⟨tests, htests, h⟩ := bind_eq_ok.mp h
    obtain rfl := Except.ok.inj h
    rw [haction, List.flatMap_append, (refers_of_emitConditions htests).2]
    rfl
  next value haction =>
    obtain ⟨expr, -, rfl⟩ := map_eq_ok.mp h
    rw [haction]
    rfl
  next code message haction =>
    obtain ⟨expr, -, rfl⟩ := map_eq_ok.mp h
    rw [haction]
    rfl

/-! ### Whole programs -/

variable {p : Program} {limit : Int} {b : Builtin}

/-- **There is one block for each step of the order.** -/
theorem branches_of_emit (h : c.emit limit = .ok p) : p.branches = c.order := by
  have hnamed : ∀ id ∈ c.order,
      Ends (c.emitBlock id) (fun block => id = block.1) fun _ => True := by
    intro id _
    refine .of_forall_ok fun block hblock => ?_
    obtain ⟨_, -, -, hid⟩ := emitBlock_eq_ok_iff.mp hblock
    exact hid
  have hnames := (ends_mapM_forall₂ hnamed).of_ok (blocks_of_emit h).1
  rw [branches, eq_comm, ← List.forall₂_eq_eq_eq, List.forall₂_map_right_iff]
  exact hnames

/-! ### What is collected -/

/-- The functions of a compiled rule are those of its calls, each name once. -/
theorem functions_eq_firsts (c : CompiledRule) :
    c.functions = firsts Entry.name ((c.order.filterMap c.calls.find?).map (·.function)) := by
  rw [functions, firsts, List.foldl_map]
  congr 1
  ext1 found
  ext1 call
  simp [addFirst]

/-- The functions whose bodies are needed are those of the functions that are called, each once. -/
theorem builtins_eq_firsts (c : CompiledRule) :
    c.builtins = firsts (fun b => b) (c.functions.map (·.builtin)) := by
  rw [builtins, firsts]
  congr 1
  ext1 found
  ext1 b
  simp [addFirst]

theorem nodup_builtins (c : CompiledRule) : c.builtins.Nodup := by
  have hnodup : ((firsts (fun b => b) (c.functions.map (·.builtin))).map fun b => b).Nodup :=
    nodup_map_firsts _
  rwa [← builtins_eq_firsts, List.map_id'] at hnodup

theorem mem_builtins : b ∈ c.builtins ↔ ∃ f ∈ c.functions, f.builtin = b := by
  have hmem : b ∈ (firsts (fun b => b) (c.functions.map (·.builtin))).map (fun b => b) ↔
      b ∈ (c.functions.map (·.builtin)).map fun b => b := mem_map_firsts
  rwa [← builtins_eq_firsts, List.map_id', List.map_id', List.mem_map] at hmem

end CompiledRule

/-- **Every call comes from a call step**, and its function from the registry. -/
theorem Bindings.call_of_foldlM {registry : Registry} {inputs : List InputDecl} {b : Bindings}
    {steps : List Step} (h : steps.foldlM (addStep registry) (.ofInputs inputs) = .ok b)
    {id : String} {call : BoundCall} (hcall : b.calls.find? id = some call) :
    call.function ∈ registry.entries ∧ ∃ s ∈ steps, s.id = id ∧ s.result?.isSome = true := by
  refine (ends_foldlM _ (fun (done : List Step) (b : Bindings) => ∀ id call,
    b.calls.find? id = some call →
      call.function ∈ registry.entries ∧ ∃ s ∈ done, s.id = id ∧ s.result?.isSome = true)
    (fun _ => True) ?_ ?_).of_ok h id call hcall
  · intro id call hcall
    exact nomatch hcall
  · intro done s rest b _ hdone
    refine .of_forall_ok fun b' hstep => ?_
    intro id call hcall
    rcases addStep_eq_ok hstep with
      ⟨-, rfl⟩ | ⟨result, function, arguments, next, new, haction, hbind, rfl⟩
    · obtain ⟨hmem, t, ht, hrest⟩ := hdone id call hcall
      exact ⟨hmem, t, List.mem_append_left _ ht, hrest⟩
    · rcases Keyed.find?_set_eq_some hcall with ⟨rfl, rfl⟩ | ⟨-, hbefore⟩
      · refine ⟨(BoundCall.mem_args_of_bind hbind).1, s, by simp, rfl, ?_⟩
        simp [Step.result?, haction]
      · obtain ⟨hmem, t, ht, hrest⟩ := hdone id call hbefore
        exact ⟨hmem, t, List.mem_append_left _ ht, hrest⟩

namespace Rule.Compilation

variable {r : Rule} {registry : Registry} {a : Analysis} {c : CompiledRule} {p : Program}
  {limit : Int} {b : Builtin}

theorem call_of_find? (h : r.Compilation registry a c) {id : String} {call : BoundCall}
    (hcall : c.calls.find? id = some call) :
    call.function ∈ (Rule.effectiveRegistry registry).entries ∧ id ∈ c.order ∧
      ∃ s ∈ c.rule.steps, s.id = id ∧ s.result?.isSome = true := by
  obtain ⟨bindings, hbindings, hcalls, -⟩ := h.bindings
  obtain ⟨hmem, s, hs, rfl, hresult⟩ := Bindings.call_of_foldlM hbindings (hcalls ▸ hcall)
  have hstep : s ∈ c.rule.steps := h.rule ▸ h.checked.ordered.mem_steps_iff.mp hs
  exact ⟨hmem, (h.ordered.mem_iff s.id).mpr (Rule.id_mem_ids hstep), s, hstep, rfl, hresult⟩

/-- **Looking a call up by the name of a step** finds what the step is bound to: where nothing is
called, nothing is found. -/
theorem called?_eq (h : r.Compilation registry a c) {s : Step} (hs : s ∈ c.rule.steps) :
    c.called? s = c.calls.find? s.id := by
  have hplain : s.result? = none → c.calls.find? s.id = none := by
    intro hresult
    by_contra hsome
    obtain ⟨call, hcall⟩ := Option.ne_none_iff_exists'.mp hsome
    obtain ⟨-, -, t, ht, hid, htresult⟩ := h.call_of_find? hcall
    obtain rfl : t = s := List.inj_on_of_nodup_map h.ordered.unique ht hs hid
    rw [hresult] at htresult
    exact nomatch htresult
  rw [CompiledRule.called?]
  cases haction : s.action with
  | call => rfl
  | branch => exact (hplain (by simp [Step.result?, haction])).symm
  | output => exact (hplain (by simp [Step.result?, haction])).symm

/-- **A function is invoked** in a program if and only if it is that of a call. -/
theorem mem_invoked_iff (h : r.Compilation registry a c) (hemit : c.emit limit = .ok p) :
    b ∈ p.invoked ↔ ∃ id call, c.calls.find? id = some call ∧ call.function.builtin = b := by
  rw [invoked, List.mem_flatMap]
  constructor
  · rintro ⟨block, hblock, hb⟩
    obtain ⟨s, hs, hstatements⟩ := CompiledRule.exists_emitStep_of_mem hemit hblock
    rw [CompiledRule.invoked_of_emitStep hstatements, h.called?_eq hs] at hb
    obtain ⟨call, hcall, rfl⟩ := Option.map_eq_some_iff.mp (Option.mem_toList.mp hb)
    exact ⟨s.id, call, hcall, rfl⟩
  · rintro ⟨id, call, hcall, rfl⟩
    obtain ⟨-, hid, -⟩ := h.call_of_find? hcall
    obtain ⟨block, hblock, hemitted⟩ :=
      (mem_of_mapM_eq_ok (CompiledRule.blocks_of_emit hemit).1).1 id hid
    obtain ⟨s, hs, hstatements, -⟩ := CompiledRule.emitBlock_eq_ok_iff.mp hemitted
    obtain ⟨hstep, rfl⟩ := Rule.mem_of_step? hs
    refine ⟨block, hblock, ?_⟩
    rw [CompiledRule.invoked_of_emitStep hstatements, h.called?_eq hstep, hcall]
    exact List.mem_singleton_self _

/-- **A function is listed** if and only if it is that of a call, provided that the functions of the
registry are told apart by their names: a function that is left out because another one has its
name is that other one. -/
theorem mem_functions_iff (h : r.Compilation registry a c)
    (hnames : ((Rule.effectiveRegistry registry).entries.map Entry.name).Nodup) {f : Entry} :
    f ∈ c.functions ↔ ∃ id call, c.calls.find? id = some call ∧ call.function = f := by
  rw [CompiledRule.functions_eq_firsts]
  constructor
  · intro hf
    obtain ⟨call, hcall, rfl⟩ := List.mem_map.mp ((firsts_sublist _).subset hf)
    obtain ⟨id, -, hfind⟩ := List.mem_filterMap.mp hcall
    exact ⟨id, call, hfind, rfl⟩
  · rintro ⟨id, call, hfind, rfl⟩
    obtain ⟨hmem, hid, -⟩ := h.call_of_find? hfind
    have hcall : call ∈ c.order.filterMap c.calls.find? := List.mem_filterMap.mpr ⟨id, hid, hfind⟩
    have hname : call.function.name ∈
        ((c.order.filterMap c.calls.find?).map (·.function)).map Entry.name :=
      List.mem_map_of_mem (List.mem_map_of_mem hcall)
    obtain ⟨g, hg, hname⟩ := List.mem_map.mp (mem_map_firsts.mpr hname)
    obtain ⟨call', hcall', rfl⟩ := List.mem_map.mp ((firsts_sublist _).subset hg)
    obtain ⟨id', -, hfind'⟩ := List.mem_filterMap.mp hcall'
    have hmem' := (h.call_of_find? hfind').1
    exact List.inj_on_of_nodup_map hnames hmem' hmem hname ▸ hg

/-- **The body of a function is brought along** if and only if a call is bound to the function. -/
theorem mem_builtins_iff (h : r.Compilation registry a c)
    (hnames : ((Rule.effectiveRegistry registry).entries.map Entry.name).Nodup) :
    b ∈ c.builtins ↔ ∃ id call, c.calls.find? id = some call ∧ call.function.builtin = b := by
  rw [CompiledRule.mem_builtins]
  constructor
  · rintro ⟨f, hf, rfl⟩
    obtain ⟨id, call, hcall, rfl⟩ := (h.mem_functions_iff hnames).mp hf
    exact ⟨id, call, hcall, rfl⟩
  · rintro ⟨id, call, hcall, rfl⟩
    exact ⟨call.function, (h.mem_functions_iff hnames).mpr ⟨id, call, hcall, rfl⟩, rfl⟩

end Rule.Compilation

/-! ### The result -/

/-- A function is found by its name in the standard catalogue. -/
theorem Builtin.find?_name (b : Builtin) :
    (Catalogue.standard.entries.map (·.builtin)).find? (fun b' => b'.name == b.name) = some b := by
  cases b <;> rfl

/-- **No two functions have one name.** -/
theorem Builtin.name_injective : Function.Injective Builtin.name := by
  intro b b' hname
  have hfound := b.find?_name
  rw [hname, b'.find?_name] at hfound
  exact (Option.some.inj hfound).symm

theorem Catalogue.nodup_names :
    ((Rule.effectiveRegistry Catalogue.standard).entries.map Entry.name).Nodup := by
  rw [Rule.effectiveRegistry_eq_self (by decide)]
  decide

/-- The blocks of a program are those of the steps of its rule, each once. -/
theorem Rule.Ordered.count_order {r : Rule} {first : String} {order : List String}
    (h : r.Ordered first order) (id : String) :
    order.count id = if id ∈ r.ids then 1 else 0 := by
  rw [h.sorted.nodup.count]
  simp only [h.mem_iff]

/-- **Emitted programs are closed.** Every rule that was compiled against the standard catalogue has
a program. The names of the functions that are brought along are those of the functions that are
invoked, each once. The loop has one block for each step of the rule and no other. Every step that
the program names to go on at has a block, so wherever its loop comes, there is the next one. -/
theorem Rule.emit_closed {r : Rule} {c : CompiledRule} (h : r.compile Catalogue.standard = .ok c)
    (limit : Int) :
    ∃ p, c.emit limit = .ok p ∧ r.emit limit = .ok p ∧
      (p.builtins.map Builtin.name).Nodup ∧
      (∀ name, name ∈ p.builtins.map Builtin.name ↔ name ∈ p.invoked.map Builtin.name) ∧
      (∀ id, p.branches.count id = if id ∈ r.ids then 1 else 0) ∧
      p.Closed ∧
      ∀ start registers, start.step = some p.entry → p.Comes start registers →
        ∃ id ∈ p.branches, registers.step = some id := by
  obtain ⟨-, haccepted⟩ := accepted_of_compile Catalogue.defaultsRead h
  obtain ⟨a, hcompilation⟩ := exists_compilation h
  obtain rfl := hcompilation.rule
  obtain ⟨p, hemit, -⟩ := CompiledRule.exists_emit haccepted limit
  obtain ⟨-, hbuiltins, hentry⟩ := CompiledRule.blocks_of_emit hemit
  have hbranches : ∀ id, id ∈ p.branches ↔ id ∈ c.rule.ids := by
    intro id
    rw [CompiledRule.branches_of_emit hemit]
    exact hcompilation.ordered.mem_iff id
  have hclosed : p.Closed := by
    intro target htarget
    rcases List.mem_cons.mp htarget with rfl | htarget
    · exact ⟨p.entry, (hbranches _).mpr (hentry ▸ hcompilation.entry_mem), rfl⟩
    · obtain ⟨block, hblock, htarget⟩ := List.mem_flatMap.mp htarget
      obtain ⟨s, hs, hstatements⟩ := CompiledRule.exists_emitStep_of_mem hemit hblock
      rw [CompiledRule.targets_of_emitStep hstatements] at htarget
      obtain ⟨id, hid, rfl⟩ := hcompilation.checked.exists_target hs htarget
      exact ⟨id, (hbranches id).mpr hid, rfl⟩
  refine ⟨p, hemit, bind_eq_ok.mpr ⟨c, h, hemit⟩, ?_, fun name => ?_, fun id => ?_, hclosed,
    fun start registers hstart hcomes => hclosed.exists_step_of_comes hstart hcomes⟩
  · rw [hbuiltins]
    exact c.nodup_builtins.map Builtin.name_injective
  · -- Both lists hold the functions of the calls.
    have hmem : ∀ b, b ∈ p.builtins ↔ b ∈ p.invoked := by
      intro b
      rw [hbuiltins, hcompilation.mem_builtins_iff Catalogue.nodup_names,
        hcompilation.mem_invoked_iff hemit]
    simp only [List.mem_map, hmem]
  · rw [CompiledRule.branches_of_emit hemit]
    exact hcompilation.ordered.count_order id

/-! ### A rule with two names for one function -/

/-- A rule that calls one function by its two names. -/
def twins : Rule :=
  { id := "twins", name := "Twins"
    inputs := [{ name := "text", type := .string, mandatory := true }]
    steps :=
      [{ id := "once", action := .call "first" "STRING_FIND_REPLACE"
            [{ source := .input "text" }, { source := .literal (.text "a") .string },
              { source := .literal (.text "b") .string }]
            (some "again") },
        { id := "again", action := .call "second" "STRING_REPLACE_ALL"
            [{ source := .variable "first" }, { source := .literal (.text "b") .string },
              { source := .literal (.text "c") .string }]
            (some "tell") },
        { id := "tell", action := .output (.success (.variable "second")) }] }

/-- What `twins` is compiled to: two calls, of two functions. -/
def twinsCompiled : CompiledRule :=
  { rule := twins, entry := "once", order := ["once", "again", "tell"]
    calls :=
      [("once",
        { stepId := "once"
          function := Catalogue.entry 2000 "STRING_FIND_REPLACE" "Find and Replace"
            "Finds and replaces text with another text." .str
            [.of "text" "Text" .string, .of "find" "Find" .string,
              .of "replaceWith" "Replace With" .string]
            .string .findReplace
          args := [.input "text", .literal (.text "a") .string, .literal (.text "b") .string] }),
        ("again",
        { stepId := "again"
          function := Catalogue.entry 2001 "STRING_REPLACE_ALL" "Replace All"
            "Replaces all occurrences of a substring inside the string." .str
            [.of "text" "Text" .string, .of "find" "Find" .string,
              .of "replaceWith" "Replace With" .string]
            .string .findReplace
          args :=
            [.variable "first", .literal (.text "b") .string, .literal (.text "c") .string] })]
    types := [("text", .string), ("first", .string), ("second", .string)]
    fingerprint := twins.fingerprint
    version := Catalogue.version }

set_option maxRecDepth 10000 in
theorem twins_compile : twins.compile Catalogue.standard = .ok twinsCompiled := rfl

/-- The program of `twins` brings the function along once, though two functions of the catalogue are
called. -/
theorem twins_emit_closed :
    twins.compile Catalogue.standard = .ok twinsCompiled ∧
      twinsCompiled.functions.map Entry.name = ["STRING_FIND_REPLACE", "STRING_REPLACE_ALL"] ∧
      twinsCompiled.builtins.map Builtin.name = ["string_find_replace"] ∧
      ∃ p, twinsCompiled.emit 10 = .ok p ∧ twins.emit 10 = .ok p ∧
        (p.builtins.map Builtin.name).Nodup ∧
        (∀ name, name ∈ p.builtins.map Builtin.name ↔ name ∈ p.invoked.map Builtin.name) ∧
        (∀ id, p.branches.count id = if id ∈ twins.ids then 1 else 0) ∧
        p.Closed ∧
        ∀ start registers, start.step = some p.entry → p.Comes start registers →
          ∃ id ∈ p.branches, registers.step = some id :=
  ⟨twins_compile, rfl, rfl, Rule.emit_closed twins_compile 10⟩

end RuleFlow
