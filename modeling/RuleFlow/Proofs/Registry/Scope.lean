import RuleFlow.Program.Basic
import RuleFlow.Proofs.Registry.Lookup
import RuleFlow.Proofs.Run.Safety

/-!
# Registries as scopes

A rule is compiled against a registry, and the registry is the scope of the functions that it calls:
nothing from elsewhere is bound, and a call of something else is refused.

An empty registry is no scope, since it counts as none and gives way to the standard catalogue. Nor
is a call refused as unknown if the lookup trips over its name.

* `RuleFlow.Rule.ValidButFor` says that nothing is wrong with a rule but that a registry may lack
  functions that it calls: there is a registry against which it is compiled, and which agrees on the
  functions that are not lacking.
* `RuleFlow.Rule.FailsWith` says that compiling, running and emitting a rule fail alike.
* `RuleFlow.Bindings.function_mem_of_foldlM` and `RuleFlow.Bindings.exists_unknown_of_foldlM` tell
  what binding the calls of a rule comes to, by induction on the steps.
* `RuleFlow.Rule.compile_scoped` is the result.
-/

namespace RuleFlow

/-! ### What is called -/

/-- The name of the function that a step calls. -/
def Step.callee? (s : Step) : Option String :=
  match s.action with
  | .call _ function _ _ => some function
  | _ => none

/-- **The names of the functions that a rule calls.** -/
def Rule.callees (r : Rule) : List String :=
  r.steps.filterMap Step.callee?

namespace Bindings

variable {registry registry' : Registry} {b b' : Bindings} {s : Step} {steps : List Step}
  {name : String}

/-! ### Binding in a scope -/

/-- **Every function that is bound is one of the registry.** -/
theorem function_mem_of_foldlM (h : steps.foldlM (addStep registry) b = .ok b')
    (hb : ∀ bound ∈ b.calls, bound.2.function ∈ registry.entries) :
    ∀ bound ∈ b'.calls, bound.2.function ∈ registry.entries := by
  refine (ends_foldlM _ (fun (_ : List Step) (b : Bindings) =>
    ∀ bound ∈ b.calls, bound.2.function ∈ registry.entries) (fun _ => True) hb ?_).of_ok h
  intro done s rest b _ hdone
  refine .of_forall_ok fun b' hstep => ?_
  intro bound hbound
  rcases addStep_eq_ok hstep with ⟨-, rfl⟩ | ⟨_, _, _, _, call, -, hbind, rfl⟩
  · exact hdone bound hbound
  · rcases Keyed.mem_set hbound with hbefore | rfl
    · exact hdone bound hbefore
    · exact (BoundCall.mem_args_of_bind hbind).1

/-- A step is bound alike against registries that agree on the function that it calls. -/
theorem addStep_congr
    (h : ∀ name, s.callee? = some name → registry.require name = registry'.require name) :
    b.addStep registry s = b.addStep registry' s := by
  cases haction : s.action with
  | call result function arguments next =>
    have hrequire := h function (by simp [Step.callee?, haction])
    simp only [addStep, addCall, haction, BoundCall.bind, hrequire]
  | branch conditions onTrue onFalse => simp only [addStep, haction]
  | output report => simp only [addStep, addCall, haction]

/-- A call of a function that the registry lacks is refused as unknown. -/
theorem addStep_eq_unknown (hs : s.callee? = some name) (h : registry.get name = .ok none) :
    b.addStep registry s = .error (.bind (.unknownFunction name registry.version)) := by
  cases haction : s.action with
  | call result function arguments next =>
    obtain rfl : function = name := by simpa [Step.callee?, haction] using hs
    simp only [addStep, addCall, haction, BoundCall.bind, Registry.require_eq_unknown_iff.mpr h]
    rfl
  | branch | output => simp [Step.callee?, haction] at hs

/-- **Where functions are lacking, binding fails at the first call of one.** Up to there the calls
are bound as they are against a registry that lacks nothing; the induction is on the steps. -/
theorem exists_unknown_of_foldlM (h : steps.foldlM (addStep registry') b = .ok b')
    (hagree : ∀ s ∈ steps, ∀ name, s.callee? = some name →
      registry.get name = .ok none ∨ registry.require name = registry'.require name)
    (hlacking : ∃ s ∈ steps, ∃ name, s.callee? = some name ∧ registry.get name = .ok none) :
    ∃ s ∈ steps, ∃ name, s.callee? = some name ∧ registry.get name = .ok none ∧
      steps.foldlM (addStep registry) b =
        .error (.bind (.unknownFunction name registry.version)) := by
  induction steps generalizing b with
  | nil => simp at hlacking
  | cons s steps ih =>
    obtain ⟨hhead, htail⟩ := List.forall_mem_cons.mp hagree
    -- Either this is the first call that fails, or the step is bound as where nothing is lacking.
    by_cases hfirst : ∃ name, s.callee? = some name ∧ registry.get name = .ok none
    · obtain ⟨name, hname, hnone⟩ := hfirst
      refine ⟨s, List.mem_cons_self, name, hname, hnone, ?_⟩
      rw [List.foldlM_cons, addStep_eq_unknown hname hnone]
      rfl
    · have hsame : b.addStep registry s = b.addStep registry' s :=
        addStep_congr fun name hname =>
          (hhead name hname).resolve_left fun hnone => hfirst ⟨name, hname, hnone⟩
      rw [List.foldlM_cons] at h
      obtain ⟨b₁, hstep, hrest⟩ := bind_eq_ok.mp h
      have hlater := (List.exists_mem_cons_iff ..).mp hlacking |>.resolve_left hfirst
      obtain ⟨t, ht, name, hname, hnone, hfails⟩ := ih hrest htail hlater
      refine ⟨t, List.mem_cons_of_mem _ ht, name, hname, hnone, ?_⟩
      rw [List.foldlM_cons, hsame, hstep]
      exact hfails

end Bindings

namespace Rule

variable {r : Rule} {registry registry' : Registry} {c : CompiledRule} {e : RuleError}

/-! ### Rules that lack functions -/

/-- **A rule is valid but for functions that a registry lacks**: there is a registry against which
it is compiled, and each function that it calls and that the one registry has is the same in the
other. -/
def ValidButFor (r : Rule) (registry : Registry) : Prop :=
  ∃ registry' c, r.compile registry' = .ok c ∧
    ∀ name ∈ r.callees, ∀ f, registry.get name = .ok (some f) → registry'.get name = .ok (some f)

/-- **A rule fails with an error** against a registry, whatever it is compiled for. -/
structure FailsWith (r : Rule) (registry : Registry) (e : RuleError) : Prop where
  /-- Compiling fails. -/
  compile : r.compile registry = .error e
  /-- Running fails, whatever the inputs and the bound. -/
  execute : ∀ inputs limit, r.execute inputs registry limit = .error e
  /-- Emitting fails, whatever the bound. -/
  emit : ∀ limit, r.emit limit registry = .error e

/-- Whoever compiles a rule fails where compiling does. -/
theorem failsWith_of_compile (h : r.compile registry = .error e) : r.FailsWith registry e := by
  refine ⟨h, fun inputs limit => ?_, fun limit => ?_⟩
  · rw [Rule.execute, h]
    rfl
  · rw [Rule.emit, h]
    rfl

/-- A registry that is not empty is what a rule is compiled against. -/
theorem effectiveRegistry_eq_self (h : registry.entries ≠ []) :
    effectiveRegistry registry = registry := by
  rw [effectiveRegistry, if_neg]
  simpa using h

/-- Only binding depends on the registry. -/
theorem compile_eq_error_of_bindings (h : r.compile registry' = .ok c)
    (hbindings : (c.order.filterMap r.step?).foldlM
      (Bindings.addStep (effectiveRegistry registry)) (.ofInputs r.inputs) = .error e) :
    r.compile registry = .error e := by
  rw [Rule.compile] at h ⊢
  obtain ⟨a, hanalyze, h⟩ := bind_eq_ok.mp h
  obtain ⟨_, hcombinators, h⟩ := bind_eq_ok.mp h
  obtain ⟨_, hdefaults, h⟩ := bind_eq_ok.mp h
  obtain ⟨_, hliterals, h⟩ := bind_eq_ok.mp h
  obtain ⟨b, -, h⟩ := bind_eq_ok.mp h
  obtain rfl := Except.ok.inj h
  dsimp only at hbindings hliterals ⊢
  rw [hanalyze]
  simp only [bind, Except.bind] at hbindings hcombinators hdefaults hliterals ⊢
  rw [hcombinators, hdefaults, hliterals]
  simp only [hbindings]

/-- A function that a rule calls is lacking, or is the same where nothing is lacking. -/
theorem require_of_agree {name : String} (htrips : ¬registry.Trips name)
    (hagree : ∀ f, registry.get name = .ok (some f) → registry'.get name = .ok (some f)) :
    registry.get name = .ok none ∨
      registry.require name = (effectiveRegistry registry').require name := by
  cases hget : registry.get name with
  | error fault => exact absurd ((registry.ends_get name).of_error hget).2 htrips
  | ok answer =>
    cases answer with
    | none => exact .inl rfl
    | some f =>
      have hget' := hagree f hget
      rw [effectiveRegistry_eq_self (List.ne_nil_of_mem (Registry.mem_of_get hget')),
        Registry.require_eq_ok_iff.mpr hget, Registry.require_eq_ok_iff.mpr hget']
      exact .inr rfl

/-- **A rule that is valid but for functions that a registry lacks** is refused for one of them. -/
theorem ValidButFor.exists_unknown (h : r.ValidButFor registry) (hentries : registry.entries ≠ [])
    (htrips : ∀ name ∈ r.callees, ¬registry.Trips name)
    (hlacking : ∃ name ∈ r.callees, registry.get name = .ok none) :
    ∃ name ∈ r.callees, registry.get name = .ok none ∧
      r.compile registry = .error (.bind (.unknownFunction name registry.version)) := by
  obtain ⟨registry', c, hcompile, hagree⟩ := h
  obtain ⟨a, hcompilation⟩ := exists_compilation hcompile
  obtain ⟨b, hbindings, -, -⟩ := hcompilation.bindings
  -- Binding goes through the steps in their order, and a rule calls what its steps call.
  have hmem : ∀ s, s ∈ a.order.filterMap r.step? ↔ s ∈ r.steps := fun s =>
    hcompilation.checked.ordered.mem_steps_iff
  have hcallee : ∀ s ∈ a.order.filterMap r.step?, ∀ name, s.callee? = some name →
      name ∈ r.callees := fun s hs name hname =>
    List.mem_filterMap.mpr ⟨s, (hmem s).mp hs, hname⟩
  have hagrees : ∀ s ∈ a.order.filterMap r.step?, ∀ name, s.callee? = some name →
      registry.get name = .ok none ∨
        registry.require name = (effectiveRegistry registry').require name :=
    fun s hs name hname =>
      have hmem := hcallee s hs name hname
      require_of_agree (htrips name hmem) (hagree name hmem)
  obtain ⟨missing, hmissing, hnone⟩ := hlacking
  obtain ⟨t, ht, htcallee⟩ := List.mem_filterMap.mp hmissing
  obtain ⟨s, hs, name, hname, hunknown, hfails⟩ := Bindings.exists_unknown_of_foldlM hbindings
    hagrees ⟨t, (hmem t).mpr ht, missing, htcallee, hnone⟩
  refine ⟨name, hcallee s hs name hname, hunknown, compile_eq_error_of_bindings hcompile ?_⟩
  rw [hcompilation.order, effectiveRegistry_eq_self hentries]
  exact hfails

/-- **A registry that is not empty is the scope of the functions that rules call.** What a rule is
compiled to has the version of the registry and is bound to functions of it alone. And if nothing is
wrong with a rule but that it calls functions that the registry lacks, then one of these is what
compiling, running and emitting refuse as unknown, as long as no lookup of a called function
trips. -/
theorem compile_scoped (hentries : registry.entries ≠ []) :
    (∀ c, r.compile registry = .ok c → c.version = registry.version ∧
      ∀ bound ∈ c.calls, bound.2.function ∈ registry.entries) ∧
    (r.ValidButFor registry → (∀ name ∈ r.callees, ¬registry.Trips name) →
      (∃ name ∈ r.callees, registry.get name = .ok none) →
      ∃ name ∈ r.callees, registry.get name = .ok none ∧
        r.FailsWith registry (.bind (.unknownFunction name registry.version))) := by
  have heffective := effectiveRegistry_eq_self hentries
  refine ⟨fun c h => ?_, fun hvalid htrips hlacking => ?_⟩
  · obtain ⟨a, hcompilation⟩ := exists_compilation h
    obtain ⟨b, hbindings, hcalls, -⟩ := hcompilation.bindings
    rw [heffective] at hbindings
    refine ⟨heffective ▸ hcompilation.version, ?_⟩
    rw [hcalls]
    exact Bindings.function_mem_of_foldlM hbindings (by simp [Bindings.ofInputs])
  · obtain ⟨name, hname, hunknown, hcompile⟩ := hvalid.exists_unknown hentries htrips hlacking
    exact ⟨name, hname, hunknown, failsWith_of_compile hcompile⟩

end Rule

/-! ### A rule that calls two functions -/

/-- A rule that adds two numbers and cuts a text off after as many characters. -/
def prefixOfSum : Rule :=
  { id := "prefixOfSum", name := "Prefix of a sum"
    steps :=
      [{ id := "add", action := .call "sum" "NUM_ADD"
          [{ source := .literal (.int 1) .number }, { source := .literal (.int 2) .number }]
          (some "cut") },
        { id := "cut", action := .call "start" "SUB_STRING"
            [{ source := .literal (.text "abcdef") .string }, { source := .variable "sum" }]
            (some "tell") },
        { id := "tell", action := .output (.success (.variable "start")) }] }

/-- The functions of the standard catalogue on numbers, as a registry of their own. -/
def numbersOnly : Registry :=
  { version := "numbers", entries := Catalogue.standard.entries.filter (·.category == .num) }

set_option maxRecDepth 10000 in
theorem prefixOfSum_validButFor : prefixOfSum.ValidButFor numbersOnly := by
  have hcallees : prefixOfSum.callees = ["NUM_ADD", "SUB_STRING"] := rfl
  refine ⟨Catalogue.standard, _, rfl, ?_⟩
  rw [hcallees]
  refine List.forall_mem_cons.mpr ⟨fun f hf => hf, List.forall_mem_singleton.mpr fun f hf => ?_⟩
  exact nomatch hf

theorem prefixOfSum_compile_scoped :
    (Catalogue.standard.entries ≠ [] ∧ excerpt.compile Catalogue.standard = .ok excerptCompiled ∧
      excerptCompiled.version = Catalogue.standard.version ∧
      ∀ bound ∈ excerptCompiled.calls, bound.2.function ∈ Catalogue.standard.entries) ∧
    numbersOnly.entries ≠ [] ∧ prefixOfSum.ValidButFor numbersOnly ∧
      ∃ name ∈ prefixOfSum.callees, numbersOnly.get name = .ok none ∧
        prefixOfSum.FailsWith numbersOnly (.bind (.unknownFunction name numbersOnly.version)) := by
  have hstandard : Catalogue.standard.entries ≠ [] := nofun
  have hnumbers : numbersOnly.entries ≠ [] := nofun
  have htrips : ∀ name ∈ prefixOfSum.callees, ¬numbersOnly.Trips name := by
    intro name hname htrips
    have hdigits : ∀ name ∈ prefixOfSum.callees, Text.isDigitString name = false := by decide
    exact absurd (htrips.digits.symm.trans (hdigits name hname)) (by decide)
  refine ⟨⟨hstandard, excerpt_compile, ?_⟩, hnumbers, prefixOfSum_validButFor, ?_⟩
  · exact (Rule.compile_scoped hstandard).1 excerptCompiled excerpt_compile
  · exact (Rule.compile_scoped hnumbers).2 prefixOfSum_validButFor htrips
      ⟨"SUB_STRING", by decide, rfl⟩

/-- A registry of its own version in which nothing was registered. -/
def bespoke : Registry :=
  { version := "bespoke" }

/-- **An empty registry is no scope**: a rule is compiled against it all the same, with the version
of the standard catalogue, and with a function that the registry does not have. -/
theorem empty_registry_not_scope :
    excerpt.compile bespoke = .ok excerptCompiled ∧ excerptCompiled.version ≠ bespoke.version ∧
      ("SUB_STRING" ∈ excerpt.callees ∧ bespoke.get "SUB_STRING" = .ok none) ∧
      ∃ bound ∈ excerptCompiled.calls, bound.2.function ∉ bespoke.entries :=
  ⟨excerpt_compile, by decide, ⟨by decide, rfl⟩, _, List.mem_cons_self, List.not_mem_nil⟩

end RuleFlow
