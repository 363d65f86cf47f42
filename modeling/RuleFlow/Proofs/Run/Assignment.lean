import RuleFlow.Proofs.Run.Course
import RuleFlow.Proofs.Run.Typing

/-!
# Every name is assigned once

A context begins with the inputs and grows by the results of calls. This file shows that it is an
append-only record of the run: the names of a context are those of the inputs and, behind them,
those of the results of the calls executed so far, in the order in which they were executed.

## The invariant

The steps that a run has executed make up its trail (`RuleFlow.CompiledRule.Trail`). A trail is a
way of the graph, and a way has produced only what stands before its end in the order of the steps.
Names are apart there, so the result of the next call is neither an input nor a result of the
trail (`RuleFlow.Rule.Compilation.result_new`): where it is bound, it is new to the context.

* `RuleFlow.CompiledRule.reaches_iff_exists_trail` and `RuleFlow.CompiledRule.Trail.runFrom_eq` tie
  trails to the states and to the results of runs.
* `RuleFlow.Rule.Compilation.names_perform` is what one step preserves, and
  `RuleFlow.Rule.assigned_once` the result.
-/

namespace RuleFlow

/-! ### Names of keyed lists -/

namespace Keyed

variable {α : Type} {entries : Keyed α} {key : String}

/-- The keys behind a key that has no value yet and gets one. -/
theorem keys_set_of_not_mem (value : α) (h : key ∉ entries.keys) :
    (entries.set key value).keys = entries.keys ++ [key] := by
  rw [set_of_not_mem value h, keys, List.map_append]
  rfl

end Keyed

/-- **Seeding names the inputs** in the order of their declarations, and nothing else. -/
theorem Seed.keys_of_context {seeds : List Seed} {inputs : Value} {values : Keyed Value}
    (hapart : (seeds.map (·.name)).Nodup) (h : context seeds inputs = .ok values) :
    values.keys = seeds.map (·.name) := by
  refine inv_of_context (fun (done : List Seed) (values : Keyed Value) =>
    values.keys = done.map (·.name)) rfl ?_ h
  intro done s rest values given v hsplit hdone _ _
  rw [hsplit, List.map_append, List.nodup_append] at hapart
  have hnew : s.name ∉ values.keys := fun hmem =>
    hapart.2.2 s.name (hdone ▸ hmem) s.name (by simp) rfl
  rw [Keyed.keys_set_of_not_mem v hnew, hdone, List.map_append]
  rfl

namespace CompiledRule

variable {c : CompiledRule} {start context context' : Context} {first target : Option String}
  {passed : List Step} {id : String} {s : Step}

/-! ### Trails -/

/-- **The trail of a run**: the steps that it has executed on the way from a state to another, in
order. -/
inductive Trail (c : CompiledRule) (start : Context) (first : Option String) :
    List Step → Context → Option String → Prop
  /-- Nothing is executed yet. -/
  | start : Trail c start first [] start first
  /-- One more step is executed, and the run goes on. -/
  | onward {passed : List Step} {context context' : Context} {id : String} {s : Step}
      {target : Option String} : Trail c start first passed context (some id) →
      c.rule.step? id = some s → c.perform context s = .ok (.onward context' target) →
      Trail c start first (passed ++ [s]) context' target

/-- The states that a run comes to are those at the end of a trail. -/
theorem reaches_iff_exists_trail :
    c.Reaches start first context target ↔ ∃ passed, c.Trail start first passed context target := by
  constructor
  · intro h
    induction h with
    | start => exact ⟨[], .start⟩
    | onward _ hs hperform ih =>
      obtain ⟨passed, htrail⟩ := ih
      exact ⟨passed ++ [_], htrail.onward hs hperform⟩
  · rintro ⟨passed, htrail⟩
    induction htrail with
    | start => exact .start
    | onward _ hs hperform ih => exact ih.onward hs hperform

/-- **A run executes its trail**: from the start it comes to what it comes to from the end of the
trail, with as many steps less of its bound as the trail has. -/
theorem Trail.runFrom_eq (h : c.Trail start first passed context target) (limit : Int)
    (left : Nat) :
    c.runFrom limit (passed.length + left) start first = c.runFrom limit left context target := by
  induction h generalizing left with
  | start => rw [List.length_nil, Nat.zero_add]
  | @onward passed context context' id s target _ hs hperform ih =>
    have hlength : (passed ++ [s]).length + left = passed.length + (left + 1) := by
      rw [List.length_append, List.length_singleton]
      omega
    rw [hlength, ih, runFrom, hs]
    dsimp only
    rw [hperform]

/-- **A trail is a way** of the graph, wherever it ends at a step. -/
theorem Trail.way {entry : String} (h : c.Trail start (some entry) passed context target)
    (htarget : target = some id) : c.rule.Way entry passed id := by
  induction h generalizing id with
  | start =>
    obtain rfl := Option.some.inj htarget
    exact .start
  | @onward passed context context' before s target _ hs hperform ih =>
    obtain ⟨hmem, rfl⟩ := Rule.mem_of_step? hs
    have hpasses : PassesOn s context (.onward context' target) :=
      (c.ends_perform_inside context s).of_ok hperform
    exact (ih rfl).onward hmem (htarget ▸ hpasses.1)

end CompiledRule

namespace Rule

variable {r : Rule} {registry : Registry} {a : Analysis} {c : CompiledRule} {name id : String}
  {passed : List Step} {s : Step}

/-- A way to a step of an accepted rule leads to one of its steps. -/
theorem Way.mem_ids (h : r.Way a.entry passed id) (hchecked : r.Checked a) : id ∈ r.ids := by
  cases h with
  | start => exact hchecked.entry_mem
  | onward _ hs htarget =>
    obtain ⟨target, htarget, heq⟩ := hchecked.exists_target hs htarget
    obtain rfl := Option.some.inj heq
    exact htarget

namespace Compilation

variable {inputs : Value} {start context context' : Context} {target : Option String}

/-! ### New names -/

/-- **The result of a step is new** wherever a way comes to the step: it is not an input, and no
step of the way has produced it. -/
theorem result_new (h : r.Compilation registry a c) (hs : s ∈ r.steps)
    (hway : r.Way a.entry passed s.id) (hresult : s.result? = some name) :
    name ∉ r.inputNames ++ results passed := by
  intro hmem
  have hordered := h.checked.ordered
  have hstands : s.id ∈ a.order := (hordered.mem_iff s.id).mpr (id_mem_ids hs)
  obtain ⟨before, after, horder⟩ := List.append_of_mem hstands
  have hapart := h.namesApart
  rw [horder, List.filterMap_append] at hapart
  -- What the way has produced stands before the step, where its own result cannot stand.
  have hearlier : name ∈ r.inputNames ∨ name ∈ results (before.filterMap r.step?) :=
    (List.mem_append.mp hmem).imp_right (hordered.results_before horder hway)
  have hlater : s ∈ (s.id :: after).filterMap r.step? :=
    List.mem_filterMap.mpr ⟨s.id, List.mem_cons_self, step?_id hordered.unique hs⟩
  exact hapart.new_of_append hearlier s hlater hresult

/-- Before the first step the names of a run are those of its inputs. -/
theorem names_start (h : r.Compilation registry a c)
    (hstart : Context.seed r.inputs inputs = .ok start) : start.values.keys = r.inputNames := by
  obtain ⟨values, hvalues, rfl⟩ := map_eq_ok.mp hstart
  have hnames : (r.inputs.map InputDecl.seed).map (·.name) = r.inputNames :=
    List.map_map.trans (List.map_congr_left fun _ _ => rfl)
  have hapart : ((r.inputs.map InputDecl.seed).map (·.name)).Nodup :=
    hnames ▸ (not_repeatsName_iff.mp h.checked.apart).1
  exact (Seed.keys_of_context hapart hvalues).trans hnames

/-- **What one step preserves**: it leaves the context as it is, or adds its result, whose name is
new, at the end. -/
theorem names_perform (h : r.Compilation registry a c) (hs : s ∈ r.steps)
    (hway : r.Way a.entry passed s.id)
    (hnames : context.values.keys = r.inputNames ++ results passed)
    (hperform : c.perform context s = .ok (.onward context' target)) :
    (s.result? = none ∧ context' = context ∨ ∃ name v, s.result? = some name ∧
      name ∉ context.values.keys ∧ context' = context.bind name v) ∧
    context'.values.keys = r.inputNames ++ results (passed ++ [s]) := by
  have hpasses : CompiledRule.PassesOn s context (.onward context' target) :=
    (c.ends_perform_inside context s).of_ok hperform
  rw [results_append, ← List.append_assoc, ← hnames]
  rcases hpasses.2 with ⟨hnone, rfl⟩ | ⟨name, v, hsome, rfl⟩
  · have hresults : results [s] = [] := by simp [results, hnone]
    exact ⟨.inl ⟨hnone, rfl⟩, by rw [hresults, List.append_nil]⟩
  · have hresults : results [s] = [name] := by simp [results, hsome]
    have hnew : name ∉ context.values.keys := hnames ▸ h.result_new hs hway hsome
    exact ⟨.inr ⟨name, v, hsome, hnew, rfl⟩, hresults ▸ Keyed.keys_set_of_not_mem v hnew⟩

/-- **The names of a context** are those of the inputs, and behind them the results of the trail. -/
theorem names_of_trail (h : r.Compilation registry a c)
    (hstart : Context.seed r.inputs inputs = .ok start)
    (htrail : c.Trail start (some c.entry) passed context target) :
    context.values.keys = r.inputNames ++ results passed := by
  induction htrail with
  | start => rw [h.names_start hstart, results_nil, List.append_nil]
  | onward htrail hs hperform ih =>
    have hway := htrail.way rfl
    rw [h.rule, h.entry] at hway
    obtain ⟨hmem, rfl⟩ := mem_of_step? (h.rule ▸ hs)
    exact (h.names_perform hmem hway ih hperform).2

/-- No name is twice in a context: neither is one among the inputs or the results of a way. -/
theorem nodup_names (h : r.Compilation registry a c) (hway : r.Way a.entry passed id) :
    (r.inputNames ++ results passed).Nodup := by
  induction hway with
  | start =>
    rw [results_nil, List.append_nil]
    exact (not_repeatsName_iff.mp h.checked.apart).1
  | @onward passed s target hway hs _ ih =>
    rw [results_append, ← List.append_assoc]
    have hone : (results [s]).Nodup := by
      cases hresult : s.result? with
      | none => simp [results, hresult]
      | some name => simp [results, hresult]
    refine List.nodup_append.mpr ⟨ih, hone, ?_⟩
    rintro name hname other hother rfl
    exact h.result_new hs hway (mem_results_singleton.mp hother) hname

end Compilation

end Rule

/-! ### Whole runs -/

/-- **Single assignment at a step** to which a run has come, by what it has executed before and by
what the analysis tells. -/
structure CompiledRule.AssignsOnce (c : CompiledRule) (a : Analysis) (passed : List Step)
    (context : Context) (s : Step) : Prop where
  /-- The context names the inputs, the results of the calls executed before, and nothing else. -/
  names : context.values.keys = c.rule.inputNames ++ results passed
  /-- No name is there twice. -/
  nodup : context.values.keys.Nodup
  /-- Every result that is there by the analysis is among the names. -/
  defined : ∃ names, a.defined.find? s.id = some names ∧
    ∀ name ∈ names, name ∈ context.values.keys
  /-- If the run goes on, the step has bound nothing, or its result under a new name. -/
  fresh : ∀ context' target, c.perform context s = .ok (.onward context' target) →
    s.result? = none ∧ context' = context ∨ ∃ name v, s.result? = some name ∧
      name ∉ context.values.keys ∧ context' = context.bind name v

/-- **Every name is assigned once.** Whatever the registry and the inputs, wherever a run of a
compiled rule comes to a step, the names of its context are the declared inputs and, behind them,
the results of the calls that it has executed, none of them twice. Every result that the analysis
knows to be there at the step is among them. And the step, if the run goes on from it, leaves the
context as it is, or is a call and adds its result under a name that the context does not have. -/
theorem Rule.assigned_once {r : Rule} {registry : Registry} {c : CompiledRule}
    (h : r.compile registry = .ok c) (inputs : Value) {start : Context}
    (hstart : Context.seed r.inputs (inputs.orElse (.record [])) = .ok start) :
    ∃ a, r.analyze = .ok a ∧
      ∀ passed context id, c.Trail start (some c.entry) passed context (some id) →
        ∃ s ∈ r.steps, s.id = id ∧ c.AssignsOnce a passed context s := by
  obtain ⟨a, hanalyze, hcompilation⟩ := exists_analysis h
  refine ⟨a, hanalyze, fun passed context id htrail => ?_⟩
  have hchecked := hcompilation.checked
  have hway := htrail.way rfl
  rw [hcompilation.rule, hcompilation.entry] at hway
  obtain ⟨s, hs, rfl⟩ := mem_ids.mp (hway.mem_ids hchecked)
  have hnames := hcompilation.names_of_trail hstart htrail
  obtain ⟨names, hdefined, -, hassured⟩ := hchecked.tracked.find? hchecked.ordered hs
  refine ⟨s, hs, rfl, ?names, ?nodup, ⟨names, hdefined, ?defined⟩, ?fresh⟩
  case names => rw [hcompilation.rule, hnames]
  case nodup => exact hnames ▸ hcompilation.nodup_names hway
  case defined =>
    intro name hname
    have hproduced : name ∈ results passed := (hassured name).mp hname passed hway
    exact hnames ▸ List.mem_append_right _ hproduced
  case fresh =>
    intro context' target hperform
    exact (hcompilation.names_perform hs hway hnames hperform).1

theorem excerpt_assigned_once :
    excerpt.compile Catalogue.standard = .ok excerptCompiled ∧
      Context.seed excerpt.inputs (.record [("count", .int 3)]) = .ok excerptStart ∧
      (∃ passed, results passed = ["start"] ∧ excerptCompiled.Trail excerptStart (some "cut")
        passed (excerptStart.bind "start" (.text "abc")) (some "tell")) ∧
      ∃ a, excerpt.analyze = .ok a ∧
        ∀ passed context id,
          excerptCompiled.Trail excerptStart (some "cut") passed context (some id) →
            ∃ s ∈ excerpt.steps, s.id = id ∧ excerptCompiled.AssignsOnce a passed context s := by
  have hstart : Context.seed excerpt.inputs (.record [("count", .int 3)]) = .ok excerptStart := rfl
  have htrail : excerptCompiled.Trail excerptStart (some "cut") ([] ++ [excerpt.steps[0]])
      (excerptStart.bind "start" (.text "abc")) (some "tell") := .onward .start rfl rfl
  exact ⟨excerpt_compile, hstart, ⟨_, rfl, htrail⟩,
    Rule.assigned_once excerpt_compile (.record [("count", .int 3)]) hstart⟩

end RuleFlow
