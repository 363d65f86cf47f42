import RuleFlow.Proofs.Graph.Verdict
import RuleFlow.Proofs.Registry.Lookup
import RuleFlow.Proofs.Run.Sources

/-!
# Compiled rules that can run

Compiling a rule is a sequence of checks, and what a run needs of each step is spread over them: its
targets and what it reads are checked with the graph, its literals and combinators one by one, and
its call when it is bound. This file collects what they establish into one statement of each step.

## What a run reads

At a call the sources are those of the bound call, in the order of its parameters. They are not the
arguments of the step as they were written: a parameter that no argument goes to has its default
(`RuleFlow.CompiledRule.reads`).

* `RuleFlow.BoundCall.mem_args_of_bind` tells where the sources of a bound call come from.
* `RuleFlow.Rule.Compilation` collects the checks that compiling has made, for any registry.
* `RuleFlow.CompiledRule.Accepted` is what is known of a compiled rule, and
  `RuleFlow.Rule.accepted_of_compile` establishes it.
-/

namespace RuleFlow

/-! ### Binding a call -/

namespace BoundCall

variable {f : Entry} {stepId : String} {source : Source}

theorem mem_of_placeNamed {arguments : List Argument} {slots slots' : Slots}
    (h : placeNamed f stepId slots arguments = .ok slots') (hmem : some source ∈ slots') :
    some source ∈ slots ∨ source ∈ arguments.map (·.source) := by
  induction arguments generalizing slots with
  | nil =>
    obtain rfl := Except.ok.inj h
    exact .inl hmem
  | cons a rest ih =>
    have hrest : ∀ slots, placeNamed f stepId slots rest = .ok slots' →
        some source ∈ slots ∨ source ∈ (a :: rest).map (·.source) := fun slots h =>
      (ih h).imp_right fun hmem => by simp [hmem]
    rw [placeNamed] at h
    split at h
    · exact hrest slots h
    · split at h
      · exact nomatch h
      · next i _ =>
        split_ifs at h
        rcases hrest _ h with hset | hmem
        · rcases List.mem_or_eq_of_mem_set hset with hold | hnew
          · exact .inl hold
          · obtain rfl := Option.some.inj hnew
            exact .inr (by simp)
        · exact .inr hmem

theorem mem_of_placeInOrder {sources : List Source} {slots : Slots}
    (hmem : some source ∈ (placeInOrder slots sources).1) :
    some source ∈ slots ∨ source ∈ sources := by
  induction slots generalizing sources with
  | nil =>
    cases sources with
    | nil => exact .inl hmem
    | cons _ _ => exact .inl hmem
  | cons slot slots ih =>
    cases sources with
    | nil => exact .inl hmem
    | cons next sources =>
      cases slot with
      | none =>
        rw [placeInOrder] at hmem
        rcases List.mem_cons.mp hmem with hmem | hmem
        · obtain rfl := Option.some.inj hmem
          exact .inr (by simp)
        · exact (ih hmem).imp (by simp [·]) (by simp [·])
      | some taken =>
        simp only [placeInOrder] at hmem
        rcases List.mem_cons.mp hmem with hmem | hmem
        · obtain rfl := Option.some.inj hmem
          exact .inl (by simp)
        · exact (ih hmem).imp_left (by simp [·])

/-- The source of a parameter is what it was given, or its default. -/
theorem eq_or_default_of_fill {types : Types} {p : Parameter} {slot : Option Source}
    (h : fill f stepId types p slot = .ok source) :
    slot = some source ∨ ∃ v, p.defaultValue = .ok v ∧ source = .literal v p.type := by
  rw [fill.eq_def] at h
  split at h
  next =>
    split at h
    next v hv => exact .inr ⟨v, hv, (Except.ok.inj h).symm⟩
    next => exact nomatch h
  next given =>
    dsimp only at h
    split_ifs at h
    exact .inl (congrArg some (Except.ok.inj h))

/-- **The sources of a bound call** are those of its arguments, and defaults of parameters. -/
theorem mem_args_of_bind {registry : Registry} {types : Types} {function : String}
    {arguments : List Argument} {call : BoundCall}
    (h : bind registry types stepId function arguments = .ok call) :
    call.function ∈ registry.entries ∧ ∀ source ∈ call.args,
      source ∈ arguments.map (·.source) ∨ ∃ p ∈ call.function.parameters, ∃ v,
        p.defaultValue = .ok v ∧ source = .literal v p.type := by
  rw [bind] at h
  obtain ⟨f, hf, h⟩ := bind_eq_ok.mp h
  obtain ⟨slots, hslots, h⟩ := bind_eq_ok.mp h
  rw [mapError_eq_ok] at hslots
  dsimp only at h
  split_ifs at h
  obtain ⟨args, hargs, h⟩ := bind_eq_ok.mp h
  obtain rfl := Except.ok.inj h
  refine ⟨Registry.mem_of_get (Registry.require_eq_ok_iff.mp hf), fun source hsource => ?_⟩
  obtain ⟨⟨p, slot⟩, hzip, hfill⟩ := (mem_of_mapM_eq_ok hargs).2 source hsource
  obtain ⟨hp, hslot⟩ := List.of_mem_zip hzip
  rcases eq_or_default_of_fill hfill with rfl | hdefault
  · left
    rcases mem_of_placeInOrder hslot with hplaced | hpositional
    · refine (mem_of_placeNamed hslots hplaced).resolve_left fun hnone => ?_
      simp at hnone
    · obtain ⟨a, ha, rfl⟩ := List.mem_map.mp hpositional
      exact List.mem_map_of_mem (List.mem_of_mem_filter ha)
  · exact .inr ⟨p, hp, hdefault⟩

end BoundCall

/-! ### Binding all calls -/

/-- The defaults of a registry are literals of the types of their parameters. -/
def Registry.DefaultsRead (registry : Registry) : Prop :=
  ∀ f ∈ registry.entries, ∀ p ∈ f.parameters, ∀ v, p.defaultValue = .ok v →
    ∃ w, v.literal p.type = .ok w

/-- **A call is bound**, to sources that stand in its step or are literals of their types. -/
def Step.Bound (calls : Keyed BoundCall) (s : Step) : Prop :=
  ∃ call, calls.find? s.id = some call ∧ ∀ source ∈ call.args,
    source ∈ s.sources ∨ ∃ v type w, source = .literal v type ∧ v.literal type = .ok w

namespace Bindings

variable {registry : Registry} {b b' : Bindings} {s t : Step}

/-- **What binding one step comes to**: a step that calls nothing leaves everything as it is, and a
call is bound by what is known so far, which gains the call and the type of its result. -/
theorem addStep_eq_ok (h : b.addStep registry s = .ok b') :
    (s.result? = none ∧ b' = b) ∨
      ∃ name function arguments next call, s.action = .call name function arguments next ∧
        BoundCall.bind registry b.types s.id function arguments = .ok call ∧
        b' = { calls := b.calls.set s.id call
               types := b.types.set name call.function.returnType } := by
  cases haction : s.action with
  | call name function arguments next =>
    simp only [addStep, addCall, haction] at h
    obtain ⟨call, hbind, h⟩ := bind_eq_ok.mp h
    exact .inr ⟨name, function, arguments, next, call, rfl, hbind, (Except.ok.inj h).symm⟩
  | branch conditions onTrue onFalse =>
    simp only [addStep, haction] at h
    obtain ⟨_, _, h⟩ := bind_eq_ok.mp h
    exact .inl ⟨by simp [Step.result?, haction], (Except.ok.inj h).symm⟩
  | output report =>
    simp only [addStep, addCall, haction] at h
    exact .inl ⟨by simp [Step.result?, haction], (Except.ok.inj h).symm⟩

/-- Binding a step binds its call, and leaves the calls of other steps bound. -/
theorem bound_of_addStep (hdefaults : registry.DefaultsRead)
    (h : b.addStep registry s = .ok b') (hid : t.id = s.id → t = s)
    (ht : t ≠ s → t.result?.isSome = true → t.Bound b.calls) (hcall : t.result?.isSome = true) :
    t.Bound b'.calls := by
  rcases addStep_eq_ok h with
    ⟨hnone, rfl⟩ | ⟨name, function, arguments, next, call, haction, hbind, rfl⟩
  · refine ht (fun heq => ?_) hcall
    subst heq
    simp [hnone] at hcall
  · obtain ⟨hmem, hargs⟩ := BoundCall.mem_args_of_bind hbind
    by_cases heq : t = s
    · subst heq
      refine ⟨call, Keyed.find?_set_self .., fun source hsource => ?_⟩
      rcases hargs source hsource with hgiven | ⟨p, hp, v, hv, rfl⟩
      · exact .inl (by simpa [Step.sources, haction] using hgiven)
      · obtain ⟨w, hw⟩ := hdefaults _ hmem p hp v hv
        exact .inr ⟨v, p.type, w, rfl, hw⟩
    · -- Another step has another name, so its call is not overwritten.
      obtain ⟨call', hfound, hargs'⟩ := ht heq hcall
      refine ⟨call', ?_, hargs'⟩
      exact (Keyed.find?_set_of_ne _ _ fun h => heq (hid h)).trans hfound

/-- **All calls are bound** once all steps are. -/
theorem bound_of_foldlM (hdefaults : registry.DefaultsRead) {steps : List Step}
    (hid : ∀ s ∈ steps, ∀ t ∈ steps, t.id = s.id → t = s)
    (h : steps.foldlM (addStep registry) b = .ok b') :
    ∀ t ∈ steps, t.result?.isSome = true → t.Bound b'.calls := by
  refine (ends_foldlM _ (fun (done : List Step) (b : Bindings) =>
    ∀ t ∈ done, t.result?.isSome = true → t.Bound b.calls) (fun _ => True) (by simp) ?_).of_ok h
  intro done s rest b hsteps hdone
  refine .of_forall_ok fun b' hadd => forall_mem_snoc.mpr ⟨fun t ht => ?_, ?_⟩
  · have hs : s ∈ steps := by simp [hsteps]
    have hmem : t ∈ steps := by simp [hsteps, ht]
    exact bound_of_addStep hdefaults hadd (hid s hs t hmem) fun _ => hdone t ht
  · exact bound_of_addStep hdefaults hadd (fun _ => rfl) fun hne => absurd rfl hne

end Bindings

/-! ### What is known of a compiled rule -/

/-- **The first condition of a branch joins nothing**, and every other one joins something, where
the combinators are checked. -/
theorem Step.combinators_of_check {s : Step} {conditions : List Condition}
    {onTrue onFalse : Option String} (haction : s.action = .branch conditions onTrue onFalse)
    (h : s.checkCombinators = .ok ()) :
    ∃ first rest, conditions = first :: rest ∧ first.combinator = none ∧
      ∀ condition ∈ rest, condition.combinator ≠ none := by
  simp only [checkCombinators, haction] at h
  cases conditions with
  | nil => exact nomatch h
  | cons first rest =>
    refine ⟨first, rest, rfl, ?_⟩
    split_ifs at h
    split at h
    next => exact nomatch h
    next hnone =>
      have hall := List.find?_eq_none.mp hnone
      refine ⟨by simpa using hall (first, 0) (by simp), fun condition hmem hjoins => ?_⟩
      obtain ⟨i, hi, rfl⟩ := List.getElem_of_mem hmem
      have hlater := hall (rest[i], i + 1)
        (List.mk_mem_zipIdx_iff_getElem?.mpr (List.getElem?_eq_getElem hi))
      simp [hjoins] at hlater

namespace CompiledRule

variable {c : CompiledRule} {s : Step}

/-- **The sources that a run reads** at a step: at a call, those that the call is bound to. -/
def reads (c : CompiledRule) (s : Step) : List Source :=
  match s.action with
  | .call .. => (c.calls.find? s.id).elim [] BoundCall.args
  | _ => s.sources

/-- The sides of a condition are among what a branch reads. -/
theorem mem_reads_of_branch {conditions : List Condition} {onTrue onFalse : Option String}
    (haction : s.action = .branch conditions onTrue onFalse) {condition : Condition}
    (hmem : condition ∈ conditions) : condition.lhs ∈ c.reads s ∧ condition.rhs ∈ c.reads s := by
  simp only [reads, Step.sources, haction, List.mem_flatMap]
  exact ⟨⟨condition, hmem, by simp⟩, condition, hmem, by simp⟩

/-- What a bound call reads are its sources. -/
theorem reads_of_call {result function : String} {arguments : List Argument}
    {next : Option String} (haction : s.action = .call result function arguments next)
    {call : BoundCall} (hcall : c.calls.find? s.id = some call) : c.reads s = call.args := by
  rw [reads, haction]
  exact congrArg (·.elim [] BoundCall.args) hcall

/-- **A step that is ready to run**, whenever a run comes to it. -/
structure Ready (c : CompiledRule) (s : Step) : Prop where
  /-- The run has a step to go on at. -/
  targets : ∀ target ∈ s.targets, ∃ id ∈ c.rule.ids, target = some id
  /-- The first condition of a branch joins nothing. -/
  conditions : ∀ conditions onTrue onFalse, s.action = .branch conditions onTrue onFalse →
    ∃ first rest, conditions = first :: rest ∧ first.combinator = none
  /-- A call is bound. -/
  bound : s.result?.isSome = true → ∃ call, c.calls.find? s.id = some call
  /-- Every literal that is read is one of its type. -/
  literals : ∀ source ∈ c.reads s, source.checkLiterals = .ok ()
  /-- Every name that is read is that of an input, or of a result that is there on every way. -/
  known : ∀ source ∈ c.reads s, ∀ reference ∈ source.references,
    reference.name ∈ c.rule.inputNames ∨ c.rule.Assured c.entry s.id reference.name

/-- **A compiled rule that can run.** -/
structure Accepted (c : CompiledRule) : Prop where
  /-- The order is one of all steps. -/
  ordered : c.rule.Ordered c.entry c.order
  /-- A run starts at a step. -/
  entry : c.entry ∈ c.rule.ids
  /-- Every step is ready. -/
  ready : ∀ s ∈ c.rule.steps, c.Ready s

/-- **A source that a run reads** stands in the step or is a literal of its type. -/
theorem mem_sources_of_reads {source : Source} (h : source ∈ c.reads s)
    (hbound : s.result?.isSome = true → s.Bound c.calls) :
    source ∈ s.sources ∨ ∃ v type w, source = .literal v type ∧ v.literal type = .ok w := by
  rw [reads.eq_def] at h
  split at h
  next haction =>
    obtain ⟨call, hcall, hargs⟩ := hbound (by simp [Step.result?, haction])
    rw [hcall] at h
    exact hargs source h
  next => exact .inl h

end CompiledRule

/-- A name that a step of an accepted rule reads is that of an input, or of a result that every way
to the step produces. -/
theorem Rule.Checked.known_of_reference {r : Rule} {a : Analysis} (h : r.Checked a) {s : Step}
    (hs : s ∈ r.steps) {source : Source} (hsource : source ∈ s.sources) {reference : Reference}
    (href : reference ∈ source.references) :
    reference.name ∈ r.inputNames ∨ r.Assured a.entry s.id reference.name := by
  have hread : reference ∈ s.references := List.mem_flatMap.mpr ⟨source, hsource, href⟩
  have hknown := h.known s hs
  rw [ReadsUnknown, not_or, not_exists, not_exists] at hknown
  rcases reference with name | name
  · exact .inl (by_contra fun hno => hknown.1 name ⟨hread, hno⟩)
  · exact .inr (by_contra fun hno => hknown.2 name ⟨hread, hno⟩)

/-- **What compiling comes to** where it goes through: the checks that were made, and what the
compiled rule takes over from the analysis and from binding. -/
structure Rule.Compilation (r : Rule) (registry : Registry) (a : Analysis) (c : CompiledRule) :
    Prop where
  /-- The graph was accepted. -/
  checked : r.Checked a
  /-- The rule is kept as it is. -/
  rule : c.rule = r
  /-- The first step is that of the analysis. -/
  entry : c.entry = a.entry
  /-- The order is that of the analysis. -/
  order : c.order = a.order
  /-- The version is that of the registry. -/
  version : c.version = (Rule.effectiveRegistry registry).version
  /-- Combinators stand where they should. -/
  combinators : ∀ s ∈ r.steps, s.checkCombinators = .ok ()
  /-- Every literal that stands in a step is one of its type. -/
  literals : ∀ s ∈ r.steps, ∀ source ∈ s.sources, source.checkLiterals = .ok ()
  /-- The steps were bound in their order. -/
  bindings : ∃ b, (a.order.filterMap r.step?).foldlM
      (Bindings.addStep (Rule.effectiveRegistry registry)) (.ofInputs r.inputs) = .ok b ∧
    c.calls = b.calls ∧ c.types = b.types

/-- **Compiling begins with the analysis**, and takes over what it tells. -/
theorem Rule.exists_analysis {r : Rule} {registry : Registry} {c : CompiledRule}
    (h : r.compile registry = .ok c) : ∃ a, r.analyze = .ok a ∧ r.Compilation registry a c := by
  rw [compile] at h
  obtain ⟨a, hanalyze, h⟩ := bind_eq_ok.mp h
  obtain ⟨_, hcombinators, h⟩ := bind_eq_ok.mp h
  obtain ⟨_, -, h⟩ := bind_eq_ok.mp h
  obtain ⟨_, hliterals, h⟩ := bind_eq_ok.mp h
  obtain ⟨b, hbindings, h⟩ := bind_eq_ok.mp h
  obtain rfl := Except.ok.inj h
  have hanalyze := mapError_eq_ok.mp hanalyze
  have hchecked := checked_of_analyze hanalyze
  refine ⟨a, hanalyze, hchecked, rfl, rfl, rfl, rfl, fun s hs => ?_, fun s hs => ?_,
    b, hbindings, rfl, rfl⟩
  · exact mapError_eq_ok.mp (forall_of_forM_eq_ok hcombinators s hs)
  · exact Source.checkAllLiterals_iff.mp
      (forall_of_forM_eq_ok hliterals s (hchecked.ordered.mem_steps_iff.mpr hs))

theorem Rule.exists_compilation {r : Rule} {registry : Registry} {c : CompiledRule}
    (h : r.compile registry = .ok c) : ∃ a, r.Compilation registry a c := by
  obtain ⟨a, -, hcompilation⟩ := exists_analysis h
  exact ⟨a, hcompilation⟩

namespace Rule.Compilation

variable {r : Rule} {registry : Registry} {a : Analysis} {c : CompiledRule}

/-- The order of a compiled rule is one of all steps. -/
theorem ordered (h : r.Compilation registry a c) : c.rule.Ordered c.entry c.order :=
  h.rule ▸ h.entry ▸ h.order ▸ h.checked.ordered

/-- A run of a compiled rule starts at a step. -/
theorem entry_mem (h : r.Compilation registry a c) : c.entry ∈ c.rule.ids :=
  h.rule ▸ h.entry ▸ h.checked.entry_mem

end Rule.Compilation

/-- **Compiling accepts only rules that can run.** -/
theorem Rule.accepted_of_compile {r : Rule} {registry : Registry} {c : CompiledRule}
    (hdefaults : (Rule.effectiveRegistry registry).DefaultsRead)
    (h : r.compile registry = .ok c) : c.rule = r ∧ c.Accepted := by
  obtain ⟨a, hcompilation⟩ := exists_compilation h
  obtain rfl := hcompilation.rule
  obtain ⟨b, hbindings, hcalls, -⟩ := hcompilation.bindings
  have hchecked := hcompilation.checked
  have hordered := hchecked.ordered
  have hbound : ∀ s ∈ c.rule.steps, s.result?.isSome = true → s.Bound c.calls := fun s hs =>
    hcalls ▸ Bindings.bound_of_foldlM hdefaults (fun s hs t ht heq =>
      List.inj_on_of_nodup_map hordered.unique (hordered.mem_steps_iff.mp ht)
        (hordered.mem_steps_iff.mp hs) heq) hbindings s (hordered.mem_steps_iff.mpr hs)
  -- The graph is checked, the calls are bound: each step has what a run needs of it.
  refine ⟨rfl, hcompilation.ordered, hcompilation.entry_mem, fun s hs =>
    ⟨fun target htarget => hchecked.exists_target hs htarget,
      fun conditions onTrue onFalse haction => ?_, fun hcall => ?_, fun source hsource => ?_,
      fun source hsource reference href => ?_⟩⟩
  · obtain ⟨first, rest, hconditions, hfirst, -⟩ :=
      Step.combinators_of_check haction (hcompilation.combinators s hs)
    exact ⟨first, rest, hconditions, hfirst⟩
  · obtain ⟨call, hcall, -⟩ := hbound s hs hcall
    exact ⟨call, hcall⟩
  · rcases CompiledRule.mem_sources_of_reads hsource (hbound s hs) with
      hmem | ⟨v, type, w, rfl, hw⟩
    · exact hcompilation.literals s hs source hmem
    · rw [Source.checkLiterals, hw]
      rfl
  · rcases CompiledRule.mem_sources_of_reads hsource (hbound s hs) with
      hmem | ⟨v, type, w, rfl, -⟩
    · exact hcompilation.entry ▸ hchecked.known_of_reference hs hmem href
    · simp [Source.references] at href

/-- The defaults of the standard catalogue are literals of the types of their parameters. -/
theorem Catalogue.defaultsRead : (Rule.effectiveRegistry Catalogue.standard).DefaultsRead :=
  fun _ hf _ hp _ hv => Catalogue.exists_literal_default hf hp hv

end RuleFlow
