import Mathlib.Data.List.Nodup
import RuleFlow.Proofs.Ends
import RuleFlow.Proofs.Graph.Sorted
import RuleFlow.Rule.Graph

/-!
# Ways along the steps of a rule

The steps of a rule and their targets as a graph, said without looking anything up: which step
follows which, which steps a way passes, and which results every way to a step produces.

* `RuleFlow.Rule.Follows` is an edge of the graph, `RuleFlow.Rule.Way` a way along edges together
  with the steps that it passes.
* `RuleFlow.Rule.Assured`: every way to a step passes a call that produces a result.
* `RuleFlow.Rule.step?_eq_some_iff` and `RuleFlow.Rule.leads_iff`: where no name is given to two
  steps, looking steps up by name loses nothing.
-/

namespace RuleFlow

theorem Step.mem_successors {s : Step} {target : String} :
    target ∈ s.successors ↔ some target ∈ s.targets := by
  simp [Step.successors]

/-- The names of the results of the calls among some steps. -/
def results (steps : List Step) : List String :=
  steps.filterMap Step.result?

@[simp] theorem results_nil : results [] = [] := rfl

@[simp] theorem results_append (steps steps' : List Step) :
    results (steps ++ steps') = results steps ++ results steps' := by
  simp [results]

theorem mem_results {steps : List Step} {name : String} :
    name ∈ results steps ↔ ∃ s ∈ steps, s.result? = some name := by
  simp [results]

theorem mem_results_singleton {s : Step} {name : String} :
    name ∈ results [s] ↔ s.result? = some name := by
  simp [mem_results]

namespace Rule

variable {r : Rule} {first id target name : String} {passed : List Step} {s : Step}

/-! ### Steps and their names -/

/-- The names of the steps. -/
def ids (r : Rule) : List String :=
  r.steps.map (·.id)

theorem mem_ids : id ∈ r.ids ↔ ∃ s ∈ r.steps, s.id = id := by
  simp [ids]

theorem id_mem_ids (h : s ∈ r.steps) : s.id ∈ r.ids :=
  mem_ids.mpr ⟨s, h, rfl⟩

theorem hasStep_iff : r.hasStep id = true ↔ id ∈ r.ids := by
  simp [hasStep, mem_ids]

/-- A step of a name is one of the steps and has the name. -/
theorem mem_of_step? (h : r.step? id = some s) : s ∈ r.steps ∧ s.id = id :=
  ⟨by simpa using List.mem_of_find?_eq_some h, by simpa using List.find?_some h⟩

/-- **Looking a step up**, where no name is given twice. -/
theorem step?_eq_some_iff (hunique : r.ids.Nodup) :
    r.step? id = some s ↔ s ∈ r.steps ∧ s.id = id := by
  refine ⟨mem_of_step?, ?_⟩
  rintro ⟨hs, rfl⟩
  have hsome : (r.step? s.id).isSome := by
    rw [step?, List.find?_isSome]
    exact ⟨s, by simpa using hs, by simp⟩
  obtain ⟨s', hs'⟩ := Option.isSome_iff_exists.mp hsome
  obtain ⟨hmem, hid⟩ := mem_of_step? hs'
  rw [hs', List.inj_on_of_nodup_map hunique hmem hs hid]

theorem step?_id (hunique : r.ids.Nodup) (hs : s ∈ r.steps) : r.step? s.id = some s :=
  (step?_eq_some_iff hunique).mpr ⟨hs, rfl⟩

/-! ### Edges -/

/-- **One step follows another**: it is among its targets. -/
def Follows (r : Rule) (id target : String) : Prop :=
  ∃ s ∈ r.steps, s.id = id ∧ some target ∈ s.targets

/-- **Looking the edges up**, where no name is given twice. -/
theorem leads_iff (hunique : r.ids.Nodup) :
    Graph.Leads r.successors id target ↔ r.Follows id target := by
  constructor
  · intro h
    cases hs : r.step? id with
    | none => simp [Graph.Leads, successors, hs] at h
    | some s =>
      obtain ⟨hmem, hid⟩ := mem_of_step? hs
      refine ⟨s, hmem, hid, Step.mem_successors.mp ?_⟩
      simpa [Graph.Leads, successors, hs] using h
  · rintro ⟨s, hmem, rfl, htarget⟩
    simpa [Graph.Leads, successors, step?_id hunique hmem] using Step.mem_successors.mpr htarget

theorem leads_eq (hunique : r.ids.Nodup) : Graph.Leads r.successors = r.Follows := by
  funext id target
  exact propext (leads_iff hunique)

/-! ### Ways -/

/-- **A way** from a first step: the steps that it passes, in order, and the step that it leads to,
which it has not passed yet. -/
inductive Way (r : Rule) (first : String) : List Step → String → Prop
  /-- The way that has not begun. -/
  | start : Way r first [] first
  /-- A way goes on through the step that it leads to. -/
  | onward {passed : List Step} {s : Step} {target : String} : Way r first passed s.id →
      s ∈ r.steps → some target ∈ s.targets → Way r first (passed ++ [s]) target

/-- A step that is reached along edges is at the end of a way. -/
theorem exists_way (h : Relation.ReflTransGen r.Follows first id) :
    ∃ passed, r.Way first passed id := by
  induction h with
  | refl => exact ⟨[], .start⟩
  | tail _ hstep ih =>
    obtain ⟨passed, hway⟩ := ih
    obtain ⟨s, hs, rfl, htarget⟩ := hstep
    exact ⟨passed ++ [s], hway.onward hs htarget⟩

/-- The steps that a way passes are steps of the rule. -/
theorem Way.passed_mem (h : r.Way first passed id) : ∀ s ∈ passed, s ∈ r.steps := by
  induction h with
  | start => simp
  | onward _ hs _ ih => exact forall_mem_snoc.mpr ⟨ih, hs⟩

/-- **A result is assured at a step**: every way to the step passes a call that produces it. -/
def Assured (r : Rule) (first id name : String) : Prop :=
  ∀ passed, r.Way first passed id → name ∈ results passed

end Rule

end RuleFlow
