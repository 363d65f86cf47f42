import RuleFlow.Proofs.Graph.Verdict

/-!
# Positions in the order of the steps

The order that the analysis of a rule tells comes from one walk, which starts at one step and leaves
a step behind after everything that it leads to. This file says where each step stands in it.

* `RuleFlow.Graph.Sorted.idxOf_lt`: in a sorted sequence every edge leads to a later position.
* `RuleFlow.Rule.Ordered.perm_ids` and `RuleFlow.Rule.Ordered.exists_eq_cons`: the order is one of
  all steps, and the first step stands in front.
* `RuleFlow.Rule.order_topological` puts them together for an accepted rule.
-/

namespace RuleFlow

namespace Graph

variable {successors : String → List String} {vs : List String} {v w : String}

/-- **An edge leads to a later position** of a sorted sequence. -/
theorem Sorted.idxOf_lt (h : Sorted successors vs) (hv : v ∈ vs) (hw : Leads successors v w) :
    vs.idxOf v < vs.idxOf w := by
  induction h with
  | nil => exact absurd hv List.not_mem_nil
  | @cons u rest hu hsucc hrest ih =>
    rcases List.mem_cons.mp hv with rfl | hv
    · have hne : v ≠ w := fun heq => hu (heq ▸ hsucc w hw)
      rw [List.idxOf_cons_self, List.idxOf_cons_ne _ hne]
      exact Nat.succ_pos _
    · have hwrest : w ∈ rest := hrest.mem_of_leads hv hw
      have hnev : u ≠ v := fun heq => hu (heq ▸ hv)
      have hnew : u ≠ w := fun heq => hu (heq ▸ hwrest)
      rw [List.idxOf_cons_ne _ hnev, List.idxOf_cons_ne _ hnew]
      exact Nat.succ_lt_succ (ih hv)

end Graph

/-- The items of a list without repetitions stand at rising positions. -/
theorem pairwise_idxOf {items : List String} (h : items.Nodup) :
    items.Pairwise fun item later => items.idxOf item < items.idxOf later := by
  refine List.pairwise_iff_getElem.mpr fun i j hi hj hij => ?_
  rwa [h.idxOf_getElem i hi, h.idxOf_getElem j hj]

namespace Rule

variable {r : Rule} {a : Analysis} {first target : String} {order : List String} {s : Step}

namespace Ordered

/-- The order is one of the names of the steps. -/
theorem perm_ids (h : r.Ordered first order) : order.Perm r.ids :=
  (List.perm_ext_iff_of_nodup h.sorted.nodup h.unique).mpr h.mem_iff

/-- **The first step stands in front.** -/
theorem exists_eq_cons (h : r.Ordered first order) (hfirst : first ∈ r.ids) :
    ∃ rest, order = first :: rest := by
  cases horder : order with
  | nil =>
    have hmem := (h.mem_iff first).mpr hfirst
    rw [horder] at hmem
    exact absurd hmem List.not_mem_nil
  | cons id rest =>
    have hid : id ∈ r.ids := (h.mem_iff id).mp (by simp [horder])
    obtain ⟨passed, hway⟩ := h.reached id hid
    -- Nothing stands before the step in front, so a way to it has passed nothing.
    have hpassed : ∀ s ∈ passed, s.id ∈ [] := h.passed_before horder hway
    cases hway with
    | start => exact ⟨rest, rfl⟩
    | @onward _ t _ _ _ _ => exact absurd (hpassed t (by simp)) List.not_mem_nil

/-- **Each step stands before those that may follow it.** -/
theorem idxOf_lt (h : r.Ordered first order) (hs : s ∈ r.steps)
    (htarget : some target ∈ s.targets) : order.idxOf s.id < order.idxOf target :=
  h.sorted.idxOf_lt ((h.mem_iff s.id).mpr (id_mem_ids hs))
    ((leads_iff h.unique).mpr ⟨s, hs, rfl, htarget⟩)

end Ordered

/-- **The order of an accepted rule** begins with the first step, holds the name of every step once
and nothing else, and has each step before all that may follow it; no step is out of reach. -/
theorem order_topological (h : r.analyze = .ok a) :
    (∃ rest, a.order = a.entry :: rest) ∧ a.order.Perm r.ids ∧ a.order.Nodup ∧
      (∀ s ∈ r.steps, ∃ passed, r.Way a.entry passed s.id) ∧
      ∀ s ∈ r.steps, ∀ target, some target ∈ s.targets →
        target ∈ a.order ∧ a.order.idxOf s.id < a.order.idxOf target := by
  have hchecked := checked_of_analyze h
  have hordered := hchecked.ordered
  refine ⟨hordered.exists_eq_cons hchecked.entry_mem, hordered.perm_ids, hordered.sorted.nodup,
    fun s hs => hordered.reached s.id (id_mem_ids hs), fun s hs target htarget => ?_⟩
  obtain ⟨id, hid, heq⟩ := hchecked.exists_target hs htarget
  obtain rfl := Option.some.inj heq
  exact ⟨(hordered.mem_iff target).mpr hid, hordered.idxOf_lt hs htarget⟩

theorem fork_order_topological :
    fork.analyze = .ok forked ∧ (∃ rest, forked.order = forked.entry :: rest) ∧
      forked.order.Perm fork.ids ∧ forked.order.Nodup ∧
      (∀ s ∈ fork.steps, ∃ passed, fork.Way forked.entry passed s.id) ∧
      ∀ s ∈ fork.steps, ∀ target, some target ∈ s.targets →
        target ∈ forked.order ∧ forked.order.idxOf s.id < forked.order.idxOf target :=
  ⟨rfl, order_topological (r := fork) rfl⟩

end Rule

end RuleFlow
