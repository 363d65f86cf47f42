import Mathlib.Data.List.Induction
import RuleFlow.Proofs.Graph.Position
import RuleFlow.Proofs.Run.Safety

/-!
# The types of names

Binding goes along the order of the steps. It begins with the types of the inputs, and learns the
type of a result when it comes to the call that produces it. Conditions and arguments are checked on
the way, against what is known so far; runs and programs read the types that are known in the end.

## What is known stays

A result is set once, by the only call of that name, and no result has the name of an input. So what
is known of a name is never changed (`RuleFlow.Bindings.find?_types_of_foldlM`). What a step reads
is an input, or a result that every way to the step produces; the call of such a result stands
before the step, so its type is known when binding comes there.

* `RuleFlow.Bindings.Learned` is what binding knows after some steps, and
  `RuleFlow.Bindings.learned_of_foldlM` establishes it.
* `RuleFlow.Rule.types_settled` is the result: each source that a step reads has the type in the end
  that it had when binding came to the step.
-/

namespace RuleFlow

/-! ### Keyed lists of distinct keys -/

/-- Where no key is given twice, each has its value. -/
theorem Keyed.find?_ofPairs {α : Type} {pairs : List (String × α)} {key : String} {value : α}
    (hkeys : (Keyed.keys pairs).Nodup) (hmem : (key, value) ∈ pairs) :
    (Keyed.ofPairs pairs).find? key = some value := by
  induction pairs using List.reverseRecOn with
  | nil => exact absurd hmem List.not_mem_nil
  | append_singleton pairs last ih =>
    obtain ⟨key', value'⟩ := last
    rw [ofPairs, List.foldl_append]
    change (Keyed.set (ofPairs pairs) key' value').find? key = some value
    rw [keys, List.map_append, List.nodup_append] at hkeys
    obtain ⟨hbefore, -, hapart⟩ := hkeys
    rcases List.mem_append.mp hmem with hmem | hmem
    · have hne : key ≠ key' := hapart key (List.mem_map_of_mem hmem) key' (by simp)
      rw [find?_set_of_ne _ _ hne]
      exact ih hbefore hmem
    · obtain ⟨rfl, rfl⟩ := Prod.mk.inj (List.mem_singleton.mp hmem)
      exact find?_set_self ..

namespace Rule

variable {inputs : List String} {steps steps' : List Step} {name first : String} {r : Rule}
  {order : List String}

/-! ### Steps in their order -/

/-- **A name that is known is new to no later step**, where names are apart. -/
theorem NamesApart.new_of_append (h : NamesApart inputs (steps ++ steps'))
    (hname : name ∈ inputs ∨ name ∈ RuleFlow.results steps) :
    ∀ t ∈ steps', t.result? ≠ some name := by
  intro t ht hresult
  have hlater : name ∈ RuleFlow.results steps' := mem_results.mpr ⟨t, ht, hresult⟩
  have hresults := h.results
  rw [results_append] at hresults
  rcases hname with hinput | hearlier
  · exact h.inputs name (results_append .. ▸ List.mem_append_right _ hlater) hinput
  · exact (List.nodup_append.mp hresults).2.2 name hearlier name hlater rfl

/-- Names are apart in whatever order the steps are taken. -/
theorem NamesApart.perm (h : NamesApart inputs steps) (hperm : steps'.Perm steps) :
    NamesApart inputs steps' := by
  have hresults : (RuleFlow.results steps').Perm (RuleFlow.results steps) :=
    hperm.filterMap Step.result?
  exact ⟨(hperm.map (·.id)).nodup_iff.mpr h.ids, hresults.nodup_iff.mpr h.results,
    fun name hname => h.inputs name (hresults.mem_iff.mp hname)⟩

/-- **Looking the order up** gives the steps of the rule in another order. -/
theorem Ordered.perm_steps (h : r.Ordered first order) :
    (order.filterMap r.step?).Perm r.steps := by
  have hids : r.ids.filterMap r.step? = r.steps := by
    rw [ids, List.filterMap_map]
    refine (List.filterMap_congr fun s hs => ?_).trans List.filterMap_some
    exact step?_id h.unique hs
  exact (h.perm_ids.filterMap r.step?).trans (List.Perm.of_eq hids)

/-- **What a way has produced** stands before its end. -/
theorem Ordered.results_before (h : r.Ordered first order) {id : String}
    {before after : List String} (horder : order = before ++ id :: after) {passed : List Step}
    (hway : r.Way first passed id) (hname : name ∈ RuleFlow.results passed) :
    name ∈ RuleFlow.results (before.filterMap r.step?) := by
  obtain ⟨t, ht, hresult⟩ := mem_results.mp hname
  have hstep := step?_id h.unique (hway.passed_mem t ht)
  have hbefore := h.passed_before horder hway t ht
  exact mem_results.mpr ⟨t, List.mem_filterMap.mpr ⟨t.id, hbefore, hstep⟩, hresult⟩

end Rule

/-- A source has the same type wherever the names inside it have. -/
theorem Source.type_eq {types types' : Types} :
    ∀ source : Source, (∀ reference ∈ source.references, ∃ type,
      types.find? reference.name = some type ∧ types'.find? reference.name = some type) →
        source.type types = source.type types'
  | .literal _ _, _ => rfl
  | .array _, _ => rfl
  | .input name, h | .variable name, h => by
    obtain ⟨type, htype, htype'⟩ := h _ List.mem_cons_self
    rw [Reference.name] at htype htype'
    rw [Source.type, Source.type, htype, htype']

namespace Bindings

variable {registry : Registry} {inputs : List InputDecl} {b b' : Bindings} {done steps : List Step}
  {s : Step} {name : String}

open Rule (NamesApart namesApart_snoc_iff)

/-! ### What binding learns -/

/-- **What is known of a name stays**, as long as no step to come produces a result of that name. -/
theorem find?_types_of_foldlM (h : steps.foldlM (addStep registry) b = .ok b')
    (hname : ∀ t ∈ steps, t.result? ≠ some name) : b'.types.find? name = b.types.find? name := by
  induction steps generalizing b with
  | nil =>
    obtain rfl := Except.ok.inj h
    rfl
  | cons s steps ih =>
    obtain ⟨hhead, htail⟩ := List.forall_mem_cons.mp hname
    rw [List.foldlM_cons] at h
    obtain ⟨b₁, hstep, hrest⟩ := bind_eq_ok.mp h
    rw [ih hrest htail]
    rcases addStep_eq_ok hstep with ⟨-, rfl⟩ | ⟨result, _, _, _, _, haction, -, rfl⟩
    · rfl
    · have hne : name ≠ result := by
        rintro rfl
        exact hhead (by simp [Step.result?, haction])
      exact Keyed.find?_set_of_ne _ _ hne

/-- **What binding knows** once some steps are done: the types of the inputs, and of each call done
its function and the type of its result. -/
structure Learned (registry : Registry) (inputs : List InputDecl) (done : List Step)
    (b : Bindings) : Prop where
  /-- An input has its declared type. -/
  inputs : ∀ d ∈ inputs, b.types.find? d.name = some d.type
  /-- A call is bound to a function of the registry, and its result has the type that the function
  returns. -/
  results : ∀ s ∈ done, ∀ name, s.result? = some name → ∃ call,
    b.calls.find? s.id = some call ∧ call.function ∈ registry.entries ∧
      b.types.find? name = some call.function.returnType ∧
      ∀ source ∈ call.args, source ∈ s.sources ∨ ∃ v type, source = .literal v type

/-- Before the first step the inputs have their types. -/
theorem Learned.start (hinputs : (inputs.map (·.name)).Nodup) :
    Learned registry inputs [] (ofInputs inputs) := by
  refine ⟨fun d hd => ?_, by simp⟩
  refine Keyed.find?_ofPairs ?_ (List.mem_map_of_mem hd)
  rw [Keyed.keys, List.map_map]
  exact hinputs

/-- **What one more step preserves.** Its name and the name of its result are new, so that nothing
known is lost. -/
theorem Learned.snoc (h : Learned registry inputs done b)
    (hapart : NamesApart (inputs.map (·.name)) (done ++ [s]))
    (hstep : b.addStep registry s = .ok b') :
    Learned registry inputs (done ++ [s]) b' := by
  obtain ⟨-, hid, hresult⟩ := namesApart_snoc_iff.mp hapart
  rcases addStep_eq_ok hstep with ⟨hnone, rfl⟩ | ⟨name, _, _, _, call, haction, hbind, rfl⟩
  · exact ⟨h.inputs, forall_mem_snoc.mpr ⟨h.results, by simp [hnone]⟩⟩
  have hname : s.result? = some name := by simp [Step.result?, haction]
  obtain ⟨hresults, hinputs⟩ := hresult name hname
  refine ⟨fun d hd => ?_, forall_mem_snoc.mpr ⟨fun t ht other hother => ?_, fun other hother => ?_⟩⟩
  · have hne : d.name ≠ name := fun heq => hinputs (heq ▸ List.mem_map_of_mem hd)
    exact (Keyed.find?_set_of_ne _ _ hne).trans (h.inputs d hd)
  · obtain ⟨call', hcall', hmem, htype, hargs⟩ := h.results t ht other hother
    have hne : other ≠ name := fun heq => hresults (mem_results.mpr ⟨t, ht, heq ▸ hother⟩)
    have hneid : t.id ≠ s.id := fun heq => hid (heq ▸ List.mem_map_of_mem ht)
    exact ⟨call', (Keyed.find?_set_of_ne _ _ hneid).trans hcall', hmem,
      (Keyed.find?_set_of_ne _ _ hne).trans htype, hargs⟩
  · obtain rfl := Option.some.inj (hname.symm.trans hother)
    obtain ⟨hmem, hargs⟩ := BoundCall.mem_args_of_bind hbind
    refine ⟨call, Keyed.find?_set_self .., hmem, Keyed.find?_set_self .., fun source hsource => ?_⟩
    rcases hargs source hsource with hgiven | ⟨p, -, v, -, rfl⟩
    · exact .inl (by simpa [Step.sources, haction] using hgiven)
    · exact .inr ⟨v, p.type, rfl⟩

/-- **What binding knows in the end.** -/
theorem learned_of_foldlM (hinputs : (inputs.map (·.name)).Nodup)
    (hapart : NamesApart (inputs.map (·.name)) steps)
    (h : steps.foldlM (addStep registry) (ofInputs inputs) = .ok b) :
    Learned registry inputs steps b := by
  refine (ends_foldlM _ (Learned registry inputs) (fun _ => True) (.start hinputs) ?_).of_ok h
  intro before s rest b hsteps hlearned
  have hsplit : steps = (before ++ [s]) ++ rest := by simp [hsteps]
  exact .of_forall_ok fun b' hstep => hlearned.snoc (hsplit ▸ hapart).of_append hstep

end Bindings

namespace Rule

variable {r : Rule} {registry : Registry} {a : Analysis} {c : CompiledRule} {s : Step}
  {before after : List String} {b : Bindings} {name : String}

/-! ### The types that checks and runs see -/

/-- **What binding knows after some steps** of a rule. -/
def bindingsAfter (r : Rule) (registry : Registry) (before : List String) :
    Except RuleError Bindings :=
  (before.filterMap r.step?).foldlM (Bindings.addStep (effectiveRegistry registry))
    (.ofInputs r.inputs)

namespace Compilation

/-- After all steps, binding knows what the compiled rule holds. -/
theorem bindingsAfter_order (h : r.Compilation registry a c) :
    r.bindingsAfter registry a.order = .ok { calls := c.calls, types := c.types } := by
  obtain ⟨b, hbindings, hcalls, htypes⟩ := h.bindings
  rw [bindingsAfter, hbindings, hcalls, htypes]

/-- Names are apart in the order of the steps. -/
theorem namesApart (h : r.Compilation registry a c) :
    NamesApart r.inputNames (a.order.filterMap r.step?) :=
  (not_repeatsName_iff.mp h.checked.apart).2.perm h.checked.ordered.perm_steps

/-- **What a compiled rule knows** of its inputs and calls. -/
theorem learned (h : r.Compilation registry a c) :
    Bindings.Learned (effectiveRegistry registry) r.inputs r.steps
      { calls := c.calls, types := c.types } := by
  have hlearned := Bindings.learned_of_foldlM (not_repeatsName_iff.mp h.checked.apart).1
    h.namesApart h.bindingsAfter_order
  exact ⟨hlearned.inputs, fun s hs =>
    hlearned.results s (h.checked.ordered.mem_steps_iff.mpr hs)⟩

/-- **What a step reads is known**: it is an input, or a result that every way to the step
produces. -/
theorem known (h : r.Compilation registry a c) (hs : s ∈ r.steps) {source : Source}
    (hsource : source ∈ c.reads s) {reference : Reference}
    (href : reference ∈ source.references) :
    reference.name ∈ r.inputNames ∨ r.Assured a.entry s.id reference.name := by
  have hstands : source ∈ s.sources ∨ ∃ v type, source = .literal v type := by
    rw [CompiledRule.reads.eq_def] at hsource
    split at hsource
    next name _ _ _ haction =>
      obtain ⟨call, hcall, -, -, hargs⟩ :=
        h.learned.results s hs name (by simp [Step.result?, haction])
      rw [hcall] at hsource
      exact hargs source hsource
    next => exact .inl hsource
  rcases hstands with hstands | ⟨v, type, rfl⟩
  · exact h.checked.known_of_reference hs hstands href
  · simp [Source.references] at href

/-- **A name that is known at a step** has its type when binding comes there, and keeps it. -/
theorem exists_type (h : r.Compilation registry a c) (horder : a.order = before ++ s.id :: after)
    (hs : s ∈ r.steps) (hb : r.bindingsAfter registry before = .ok b)
    (hknown : name ∈ r.inputNames ∨ r.Assured a.entry s.id name) :
    ∃ type, b.types.find? name = some type ∧ c.types.find? name = some type := by
  have hordered := h.checked.ordered
  have hapart := h.namesApart
  have hrest := h.bindingsAfter_order
  rw [horder, List.filterMap_append] at hapart
  rw [bindingsAfter, horder, List.filterMap_append, List.foldlM_append] at hrest
  obtain ⟨b', hb', hrest⟩ := bind_eq_ok.mp hrest
  obtain rfl : b' = b := Except.ok.inj (hb'.symm.trans hb)
  have hlearned := Bindings.learned_of_foldlM (not_repeatsName_iff.mp h.checked.apart).1
    hapart.of_append hb
  -- The calls that every way to the step has passed stand before it.
  have hearlier : name ∈ r.inputNames ∨ name ∈ results (before.filterMap r.step?) := by
    refine hknown.imp_right fun hassured => ?_
    obtain ⟨passed, hway⟩ := hordered.reached s.id (id_mem_ids hs)
    exact hordered.results_before horder hway (hassured passed hway)
  have hkept := Bindings.find?_types_of_foldlM hrest (hapart.new_of_append hearlier)
  have htype : ∃ type, b'.types.find? name = some type := by
    rcases hearlier with hinput | hresult
    · obtain ⟨d, hd, rfl⟩ := List.mem_map.mp hinput
      exact ⟨d.type, hlearned.inputs d hd⟩
    · obtain ⟨t, ht, hresult⟩ := mem_results.mp hresult
      obtain ⟨call, -, -, htype, -⟩ := hlearned.results t ht name hresult
      exact ⟨_, htype⟩
  obtain ⟨type, htype⟩ := htype
  exact ⟨type, htype, hkept.trans htype⟩

/-- Binding goes through up to any step. -/
theorem exists_bindingsAfter (h : r.Compilation registry a c) (horder : a.order = before ++ after) :
    ∃ b, r.bindingsAfter registry before = .ok b := by
  have hall := h.bindingsAfter_order
  rw [bindingsAfter, horder, List.filterMap_append, List.foldlM_append] at hall
  obtain ⟨b, hb, -⟩ := bind_eq_ok.mp hall
  exact ⟨b, hb⟩

end Compilation

/-- **The types of names are settled** when binding comes to the first step that reads them. Binding
follows the order of the steps up to what the compiled rule holds; and of each step, every source
that a run reads there has the type by what is known before the step that it has in the end, and
every name inside the source has a type by then. -/
theorem types_settled (h : r.compile registry = .ok c) :
    r.bindingsAfter registry c.order = .ok { calls := c.calls, types := c.types } ∧
      ∀ s ∈ r.steps, ∃ before after b, c.order = before ++ s.id :: after ∧
        r.bindingsAfter registry before = .ok b ∧
        ∀ source ∈ c.reads s, source.type b.types = source.type c.types ∧
          ∀ reference ∈ source.references, ∃ type,
            b.types.find? reference.name = some type ∧
              c.types.find? reference.name = some type := by
  obtain ⟨a, hcompilation⟩ := exists_compilation h
  rw [hcompilation.order]
  refine ⟨hcompilation.bindingsAfter_order, fun s hs => ?_⟩
  have hmem := (hcompilation.checked.ordered.mem_iff s.id).mpr (id_mem_ids hs)
  obtain ⟨before, after, horder⟩ := List.append_of_mem hmem
  obtain ⟨b, hb⟩ := hcompilation.exists_bindingsAfter horder
  refine ⟨before, after, b, horder, hb, fun source hsource => ?_⟩
  have htypes : ∀ reference ∈ source.references, ∃ type,
      b.types.find? reference.name = some type ∧ c.types.find? reference.name = some type :=
    fun reference href =>
      hcompilation.exists_type horder hs hb (hcompilation.known hs hsource href)
  exact ⟨source.type_eq htypes, htypes⟩

end Rule

theorem excerpt_types_settled :
    excerpt.compile Catalogue.standard = .ok excerptCompiled ∧
      excerpt.bindingsAfter Catalogue.standard excerptCompiled.order =
        .ok { calls := excerptCompiled.calls, types := excerptCompiled.types } ∧
      ∀ s ∈ excerpt.steps, ∃ before after b, excerptCompiled.order = before ++ s.id :: after ∧
        excerpt.bindingsAfter Catalogue.standard before = .ok b ∧
        ∀ source ∈ excerptCompiled.reads s,
          source.type b.types = source.type excerptCompiled.types ∧
            ∀ reference ∈ source.references, ∃ type,
              b.types.find? reference.name = some type ∧
                excerptCompiled.types.find? reference.name = some type :=
  ⟨excerpt_compile, Rule.types_settled excerpt_compile⟩

end RuleFlow
