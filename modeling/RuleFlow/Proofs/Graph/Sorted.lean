import Mathlib.Data.List.Basic
import Mathlib.Logic.Relation

/-!
# Sorted sequences of vertices

A sequence of vertices is sorted if each vertex stands in it once and everything that the vertex
leads to stands behind it. A walk that goes depth first leaves its vertices behind in such a
sequence, and whatever is carried along the steps of a rule is carried along one.

* `RuleFlow.Graph.Sorted` is the notion.
* `RuleFlow.Graph.Sorted.mem_before`: what leads to a vertex stands before it.
* `RuleFlow.Graph.Sorted.not_circle`: no way leads from a vertex of the sequence back to it.
* `RuleFlow.Graph.Sorted.reached`: if only one vertex has nothing before it that leads to it, then
  every vertex is reached from that one.
-/

namespace RuleFlow

namespace Graph

variable {successors : String → List String}

/-- **One vertex leads to another** along one edge. -/
def Leads (successors : String → List String) (v w : String) : Prop :=
  w ∈ successors v

/-- **Sorted sequences**: no vertex stands twice, and what a vertex leads to stands behind it. -/
inductive Sorted (successors : String → List String) : List String → Prop
  /-- The empty sequence. -/
  | nil : Sorted successors []
  /-- A new vertex in front, everything it leads to being there. -/
  | cons {v : String} {rest : List String} : v ∉ rest → (∀ w ∈ successors v, w ∈ rest) →
      Sorted successors rest → Sorted successors (v :: rest)

namespace Sorted

variable {vs before rest : List String} {v w : String}

theorem nodup (h : Sorted successors vs) : vs.Nodup := by
  induction h with
  | nil => exact List.nodup_nil
  | cons hv _ _ ih => exact List.nodup_cons.mpr ⟨hv, ih⟩

/-- What is left of a sorted sequence is sorted. -/
theorem of_append (h : Sorted successors (before ++ rest)) : Sorted successors rest := by
  induction before with
  | nil => exact h
  | cons u before ih =>
    cases h with
    | cons _ _ h => exact ih h

/-- **A sorted sequence is closed**: it holds what its vertices lead to. -/
theorem mem_of_leads (h : Sorted successors vs) (hv : v ∈ vs) (hw : Leads successors v w) :
    w ∈ vs := by
  induction h with
  | nil => exact absurd hv List.not_mem_nil
  | cons _ hsucc _ ih =>
    rcases List.mem_cons.mp hv with rfl | hv
    · exact List.mem_cons_of_mem _ (hsucc w hw)
    · exact List.mem_cons_of_mem _ (ih hv)

/-- A sorted sequence holds what is reached from its vertices. -/
theorem mem_of_reached (h : Sorted successors vs) (hv : v ∈ vs)
    (hw : Relation.ReflTransGen (Leads successors) v w) : w ∈ vs := by
  induction hw with
  | refl => exact hv
  | tail _ hw ih => exact h.mem_of_leads ih hw

/-- What a vertex leads to stands behind it. -/
theorem mem_behind (h : Sorted successors (before ++ v :: rest)) (hw : Leads successors v w) :
    w ∈ rest := by
  cases h.of_append with
  | cons _ hsucc _ => exact hsucc w hw

/-- **What leads to a vertex stands before it.** -/
theorem mem_before (h : Sorted successors (before ++ v :: rest)) (hw : w ∈ before ++ v :: rest)
    (hwv : Leads successors w v) : w ∈ before := by
  rcases List.mem_append.mp hw with hw | hw
  · exact hw
  exfalso
  cases h.of_append with
  | cons hv hsucc hrest =>
    rcases List.mem_cons.mp hw with rfl | hw
    · exact hv (hsucc w hwv)
    · exact hv (hrest.mem_of_leads hw hwv)

/-- A way from a vertex leads behind it. -/
theorem mem_behind_of_way (h : Sorted successors (before ++ v :: rest))
    (hw : Relation.TransGen (Leads successors) v w) : w ∈ rest := by
  have hrest : Sorted successors rest := by
    cases h.of_append with
    | cons _ _ hrest => exact hrest
  induction hw with
  | single hw => exact h.mem_behind hw
  | tail _ hw ih => exact hrest.mem_of_leads ih hw

/-- **No circle goes through a sorted sequence.** -/
theorem not_circle (h : Sorted successors vs) (hv : v ∈ vs) :
    ¬Relation.TransGen (Leads successors) v v := by
  intro hvv
  obtain ⟨before, rest, rfl⟩ := List.append_of_mem hv
  have hrest : v ∈ rest := h.mem_behind_of_way hvv
  cases h.of_append with
  | cons hv' _ _ => exact hv' hrest

/-- **Every vertex is reached from the first one**, if every other one has something that leads to
it. -/
theorem reached {first : String} (h : Sorted successors vs)
    (hpred : ∀ v ∈ vs, v ≠ first → ∃ u ∈ vs, Leads successors u v) (hv : v ∈ vs) :
    Relation.ReflTransGen (Leads successors) first v := by
  obtain ⟨before, rest, hvs⟩ := List.append_of_mem hv
  -- Going backwards along the edges goes forwards in the sequence.
  induction hlen : before.length using Nat.strongRecOn generalizing v before rest with
  | ind n ih =>
    by_cases hfirst : v = first
    · subst hfirst
      exact Relation.ReflTransGen.refl
    obtain ⟨u, hu, huv⟩ := hpred v hv hfirst
    have hbefore : u ∈ before := by
      rw [hvs] at h hu
      exact h.mem_before hu huv
    obtain ⟨before', rest', rfl⟩ := List.append_of_mem hbefore
    have hlt : before'.length < n := by
      rw [← hlen]
      simp
    exact (ih _ hlt hu before' (rest' ++ v :: rest) (by simpa using hvs) rfl).tail huv

end Sorted

end Graph

end RuleFlow
