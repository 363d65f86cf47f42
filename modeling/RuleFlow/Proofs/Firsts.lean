import Mathlib.Data.Finset.Card
import Mathlib.Data.List.Induction
import Mathlib.Data.List.Nodup
import Mathlib.Tactic.SplitIfs

/-!
# The first items of each key

Of several items with one key only the first is kept: a name is given once, and a function is
written out once. The items are gone through in order, and what was kept so far decides about the
next one.

* `RuleFlow.firsts` are the items that are kept, and `RuleFlow.addFirst` looks at one more.
* `RuleFlow.mem_map_firsts` and `RuleFlow.nodup_map_firsts`: every key is kept, and none twice.
* `RuleFlow.find?_firsts`: what is found under a key is what came first under it.
-/

namespace RuleFlow

variable {α κ : Type} [DecidableEq κ] {key : α → κ} {found : List α} {x : α} {k : κ}

/-- Keeping one more item, unless there is one of its key. -/
def addFirst (key : α → κ) (found : List α) (x : α) : List α :=
  if key x ∈ found.map key then found else found ++ [x]

/-- **The first items of each key**, in the order in which they come. -/
def firsts (key : α → κ) (items : List α) : List α :=
  items.foldl (addFirst key) []

theorem firsts_snoc (items : List α) (x : α) :
    firsts key (items ++ [x]) = addFirst key (firsts key items) x := by
  simp [firsts]

/-! ### Keys -/

theorem mem_map_addFirst : k ∈ (addFirst key found x).map key ↔ k ∈ found.map key ∨ k = key x := by
  rw [addFirst]
  split_ifs with hkept
  · constructor
    · intro hk
      exact .inl hk
    · rintro (hk | rfl)
      · exact hk
      · exact hkept
  · simp

/-- **Every key is kept.** -/
theorem mem_map_firsts {items : List α} : k ∈ (firsts key items).map key ↔ k ∈ items.map key := by
  induction items using List.reverseRecOn with
  | nil => rfl
  | append_singleton items x ih =>
    rw [firsts_snoc, mem_map_addFirst, ih]
    simp

theorem nodup_map_addFirst (h : (found.map key).Nodup) (x : α) :
    ((addFirst key found x).map key).Nodup := by
  rw [addFirst]
  split_ifs with hkept
  · exact h
  · rw [List.map_append]
    exact h.append (List.nodup_singleton _) (by simpa using hkept)

/-- **No key is kept twice.** -/
theorem nodup_map_firsts (items : List α) : ((firsts key items).map key).Nodup := by
  induction items using List.reverseRecOn with
  | nil => exact List.nodup_nil
  | append_singleton items x ih =>
    rw [firsts_snoc]
    exact nodup_map_addFirst ih x

/-- There are as many items as there are keys. -/
theorem length_firsts (items : List α) :
    (firsts key items).length = (items.map key).toFinset.card := by
  have hkeys : (items.map key).toFinset = ((firsts key items).map key).toFinset := by
    ext k
    simp only [List.mem_toFinset, mem_map_firsts]
  rw [hkeys, List.toFinset_card_of_nodup (nodup_map_firsts items), List.length_map]

/-! ### Items -/

/-- The items that are kept stand in their old order. -/
theorem firsts_sublist (items : List α) : (firsts key items).Sublist items := by
  induction items using List.reverseRecOn with
  | nil => exact .slnil
  | append_singleton items x ih =>
    rw [firsts_snoc, addFirst]
    split_ifs
    · exact ih.trans (List.sublist_append_left ..)
    · exact ih.append (.refl _)

/-- **What is found under a key** is the first item of that key. -/
theorem find?_firsts (items : List α) (k : κ) :
    (firsts key items).find? (fun x => key x == k) = items.find? fun x => key x == k := by
  induction items using List.reverseRecOn with
  | nil => rfl
  | append_singleton items x ih =>
    rw [firsts_snoc, addFirst, List.find?_append, ← ih]
    split_ifs with hkept
    · -- An item that is not kept comes too late to be found.
      by_cases hk : key x = k
      · obtain ⟨y, hy, heq⟩ := List.mem_map.mp hkept
        have hsome : ((firsts key items).find? fun x => key x == k).isSome := by
          rw [List.find?_isSome]
          exact ⟨y, hy, by simp [heq, hk]⟩
        rw [Option.or_of_isSome hsome]
      · simp [hk]
    · rw [List.find?_append]

end RuleFlow
