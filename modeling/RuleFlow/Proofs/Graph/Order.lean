import RuleFlow.Proofs.Graph.Checks
import RuleFlow.Proofs.Graph.Search

/-!
# Circles, and the order of the steps

The walk along the steps of a rule finds a circle exactly if there is one, reached from the first
step or not. If there is none and there is one first step, then the walk from that step leaves all
steps behind, in an order in which each stands before those that may follow it.

* `RuleFlow.Rule.Circles` is the flaw, `RuleFlow.Rule.ends_checkCircles` the check.
* `RuleFlow.Rule.Ordered` is what is known of the order once circles and first step are checked,
  and `RuleFlow.Rule.ordered_of_walk` establishes it.
* `RuleFlow.Rule.Ordered.passed_before`: a way has passed only what stands before its end.
-/

namespace RuleFlow

namespace Rule

variable {r : Rule} {first id start : String} {order : List String}

/-! ### Circles -/

/-- **Steps follow each other in a circle.** -/
def Circles (r : Rule) : Prop :=
  ∃ id, Relation.TransGen r.Follows id id

/-- Where nothing dangles, what a step leads to is a step. -/
theorem successors_mem_ids (hunique : r.ids.Nodup) (hdangle : ¬r.Dangles) :
    ∀ id ∈ r.ids, ∀ target ∈ r.successors id, target ∈ r.ids := by
  intro id _ target htarget
  obtain ⟨s, hs, -, hmem⟩ := (leads_iff hunique).mp htarget
  by_contra hno
  exact hdangle (Or.inl ⟨s, hs, target, hmem, hno⟩)

theorem circles_of_isCircle (hunique : r.ids.Nodup) {path : List String}
    (h : Graph.IsCircle r.successors path) : r.Circles := by
  obtain ⟨id, hid⟩ := h.exists_transGen
  rw [leads_eq hunique] at hid
  exact ⟨id, hid⟩

/-- **All steps in a sorted sequence** leave no room for a circle. -/
theorem not_circles_of_sorted (hunique : r.ids.Nodup) {all : List String}
    (hsorted : Graph.Sorted r.successors all) (hall : ∀ id ∈ r.ids, id ∈ all) : ¬r.Circles := by
  rintro ⟨id, hid⟩
  have hmem : id ∈ r.ids := by
    obtain ⟨target, hstep, -⟩ := Relation.TransGen.head'_iff.mp hid
    obtain ⟨s, hs, rfl, -⟩ := hstep
    exact id_mem_ids hs
  rw [← leads_eq hunique] at hid
  exact hsorted.not_circle (hall id hmem) hid

/-- A walk from a step of the rule. -/
theorem ends_walkFrom (hunique : r.ids.Nodup) (hdangle : ¬r.Dangles) {walk : Graph.Walk}
    (hwalk : walk.Sound r.successors r.ids []) (hid : id ∈ r.ids) (hnew : id ∉ walk.visited) :
    Ends (r.walkFrom walk id) (walk.Advanced r.successors r.ids [] id)
      (fun e => ∃ path, e = .cycle path ∧ Graph.IsCircle r.successors path) := by
  refine (Graph.ends_search (successors_mem_ids hunique hdangle) _ ?_ ?_ hwalk hnew).mapError
    fun path hpath => ⟨path, rfl, hpath⟩
  · simp [ids]
  · exact ⟨List.nodup_singleton id, by simpa using hid, List.isChain_singleton id⟩

/-- The walks from the steps that were not met so far. -/
theorem ends_otherWalks (hunique : r.ids.Nodup) (hdangle : ¬r.Dangles) {walk : Graph.Walk}
    (hwalk : walk.Sound r.successors r.ids []) :
    Ends
      (r.steps.foldlM (fun (rest : Graph.Walk) (s : Step) =>
        if rest.visited.contains s.id then .ok rest else r.walkFrom rest s.id) walk)
      (fun rest : Graph.Walk => rest.Sound r.successors r.ids [] ∧
        ∀ s ∈ r.steps, s.id ∈ rest.finished)
      (fun e => ∃ path, e = .cycle path ∧ Graph.IsCircle r.successors path) := by
  refine ends_foldlM _
    (fun (done : List Step) (rest : Graph.Walk) => rest.Sound r.successors r.ids [] ∧
      ∀ s ∈ done, s.id ∈ rest.finished) _ ⟨hwalk, by simp⟩ ?_
  rintro before s after rest hsteps ⟨hrest, hdone⟩
  have hs : s ∈ r.steps := by simp [hsteps]
  split_ifs with hvisited
  · -- The way of the walk is empty between two searches, so what was met is left behind.
    refine ⟨hrest, forall_mem_snoc.mpr ⟨hdone, ?_⟩⟩
    simpa using (hrest.mem_visited _).mp (by simpa using hvisited)
  · refine (ends_walkFrom hunique hdangle hrest (id_mem_ids hs) (by simpa using hvisited)).mono
      (fun rest' hrest' => ⟨hrest'.sound, ?_⟩) fun _ h => h
    exact forall_mem_snoc.mpr ⟨fun t ht => hrest'.kept (hdone t ht), hrest'.reached⟩

/-- **The check of circles**: the first walk is sorted, and so are all walks together; or a circle
is told. -/
theorem ends_checkCircles (hunique : r.ids.Nodup) (hdangle : ¬r.Dangles) (hstart : start ∈ r.ids) :
    Ends (r.checkCircles start)
      (fun order => (Graph.Sorted r.successors order ∧ start ∈ order ∧ ∀ id ∈ order, id ∈ r.ids) ∧
        ∃ all, Graph.Sorted r.successors all ∧ ∀ id, id ∈ all ↔ id ∈ r.ids)
      (fun e => ∃ path, e = .cycle path ∧ Graph.IsCircle r.successors path) := by
  rw [checkCircles]
  refine (ends_walkFrom hunique hdangle .start hstart (by simp)).bind fun walk hwalk => ?_
  refine (ends_otherWalks hunique hdangle hwalk.sound).bind fun rest hrest => ?_
  refine ⟨⟨hwalk.sound.sorted, hwalk.reached, hwalk.sound.known⟩, rest.finished,
    hrest.1.sorted, fun id => ⟨hrest.1.known id, fun hid => ?_⟩⟩
  obtain ⟨s, hs, rfl⟩ := mem_ids.mp hid
  exact hrest.2 s hs

/-! ### The order of the steps -/

/-- **All steps in an order** that begins at a first step. -/
structure Ordered (r : Rule) (first : String) (order : List String) : Prop where
  /-- No two steps have one name. -/
  unique : r.ids.Nodup
  /-- Each step stands before those that may follow it. -/
  sorted : Graph.Sorted r.successors order
  /-- The order holds the steps and nothing else. -/
  mem_iff : ∀ id, id ∈ order ↔ id ∈ r.ids
  /-- Every step is at the end of a way from the first one. -/
  reached : ∀ id ∈ r.ids, ∃ passed, r.Way first passed id

/-- **A walk from the only first step** leaves all steps behind. -/
theorem ordered_of_walk (hunique : r.ids.Nodup) {all : List String}
    (hall : Graph.Sorted r.successors all) (hmem : ∀ id, id ∈ all ↔ id ∈ r.ids)
    (hsorted : Graph.Sorted r.successors order) (hknown : ∀ id ∈ order, id ∈ r.ids)
    {s : Step} (hfirsts : r.firsts = [s]) (hs : s.id ∈ order) : r.Ordered s.id order := by
  have hpred : ∀ id ∈ all, id ≠ s.id → ∃ before ∈ all, Graph.Leads r.successors before id := by
    intro id hid hne
    obtain ⟨t, ht, rfl⟩ := mem_ids.mp ((hmem id).mp hid)
    by_contra hno
    have hfirst : t ∈ r.firsts := by
      refine mem_firsts.mpr ⟨ht, fun u hu htarget => hno ?_⟩
      exact ⟨u.id, (hmem _).mpr (id_mem_ids hu), (leads_iff hunique).mpr ⟨u, hu, rfl, htarget⟩⟩
    obtain rfl : t = s := by simpa [hfirsts] using hfirst
    exact hne rfl
  have hreached : ∀ id ∈ r.ids, Relation.ReflTransGen (Graph.Leads r.successors) s.id id :=
    fun id hid => hall.reached hpred ((hmem id).mpr hid)
  refine ⟨hunique, hsorted, fun id => ⟨hknown id, fun hid => ?_⟩, fun id hid => ?_⟩
  · exact hsorted.mem_of_reached hs (hreached id hid)
  · exact exists_way (leads_eq hunique ▸ hreached id hid)

namespace Ordered

variable {passed : List Step} {s : Step} {before rest : List String}

/-- Looking up all names of the order gives all steps. -/
theorem mem_steps_iff (h : r.Ordered first order) :
    s ∈ order.filterMap r.step? ↔ s ∈ r.steps := by
  rw [List.mem_filterMap]
  constructor
  · rintro ⟨id, -, hid⟩
    exact (mem_of_step? hid).1
  · exact fun hs => ⟨s.id, (h.mem_iff s.id).mpr (id_mem_ids hs), step?_id h.unique hs⟩

/-- **A way has passed only what stands before its end.** -/
theorem passed_before (h : r.Ordered first order) (horder : order = before ++ id :: rest)
    (hway : r.Way first passed id) : ∀ s ∈ passed, s.id ∈ before := by
  induction hway generalizing before rest with
  | start => simp
  | @onward passed s target hway hs htarget ih =>
    have hsorted : Graph.Sorted r.successors (before ++ target :: rest) := horder ▸ h.sorted
    have hbefore : s.id ∈ before := by
      refine hsorted.mem_before ?_ ((leads_iff h.unique).mpr ⟨s, hs, rfl, htarget⟩)
      rw [← horder]
      exact (h.mem_iff _).mpr (id_mem_ids hs)
    refine forall_mem_snoc.mpr ⟨fun t ht => ?_, hbefore⟩
    -- What the way has passed earlier stands even before its last step.
    obtain ⟨before', rest', rfl⟩ := List.append_of_mem hbefore
    have horder' : order = before' ++ s.id :: (rest' ++ target :: rest) := by simp [horder]
    simp [ih horder' t ht]

/-- A way that has passed only the steps before a step and that step itself either has not passed
it, or passed it last. -/
theorem passed_last (h : r.Ordered first order) (horder : order = before ++ id :: rest)
    {target : String} (hway : r.Way first passed target)
    (hpassed : ∀ s ∈ passed, s.id ∈ before ++ [id]) :
    (∀ s ∈ passed, s.id ∈ before) ∨
      ∃ passed' s, passed = passed' ++ [s] ∧ s ∈ r.steps ∧ s.id = id ∧
        some target ∈ s.targets ∧ r.Way first passed' id := by
  cases hway with
  | start => exact Or.inl (by simp)
  | @onward passed' s _ hway hs htarget =>
    rcases List.mem_append.mp (hpassed s (by simp)) with hbefore | hlast
    · left
      refine forall_mem_snoc.mpr ⟨fun t ht => ?_, hbefore⟩
      obtain ⟨before', rest', rfl⟩ := List.append_of_mem hbefore
      have horder' : order = before' ++ s.id :: (rest' ++ id :: rest) := by simp [horder]
      simp [h.passed_before horder' hway t ht]
    · obtain rfl : s.id = id := by simpa using hlast
      exact Or.inr ⟨passed', s, rfl, hs, rfl, htarget, hway⟩

end Ordered

end Rule

end RuleFlow
