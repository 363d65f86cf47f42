import Mathlib.Data.List.Forall2
import RuleFlow.Proofs.Ends

/-!
# Two computations side by side

Where one computation is compared with another, on inputs that differ in something that should not
matter, both go through or both fail. What is proved of the pair says how their values are related,
and how their errors are.

* `RuleFlow.EndAlike` is that statement.
* `RuleFlow.EndAlike.bind` chains two pairs of computations, and `RuleFlow.endAlike_mapM` takes them
  along two lists.
* `RuleFlow.endAlike_forM_of_perm`: checks that are made of the items of a list, one by one, may be
  made in any order.
-/

namespace RuleFlow

variable {ε ε' δ δ' α α' β β' : Type}

/-- **Two computations end alike**: with values that `good` relates, or with errors that `bad`
relates. -/
def EndAlike (x : Except ε α) (y : Except δ β) (good : α → β → Prop) (bad : ε → δ → Prop) : Prop :=
  match x, y with
  | .ok a, .ok b => good a b
  | .error e, .error d => bad e d
  | _, _ => False

namespace EndAlike

variable {x : Except ε α} {y : Except δ β} {good : α → β → Prop} {bad : ε → δ → Prop}

@[simp] theorem ok_iff (a : α) (b : β) :
    EndAlike (.ok a : Except ε α) (.ok b : Except δ β) good bad ↔ good a b := Iff.rfl

@[simp] theorem error_iff (e : ε) (d : δ) :
    EndAlike (.error e : Except ε α) (.error d : Except δ β) good bad ↔ bad e d := Iff.rfl

/-- **Both have values, or both have errors.** -/
theorem outcome (h : EndAlike x y good bad) :
    (∃ a b, x = .ok a ∧ y = .ok b ∧ good a b) ∨ ∃ e d, x = .error e ∧ y = .error d ∧ bad e d := by
  cases x with
  | ok a =>
    cases y with
    | ok b => exact .inl ⟨a, b, rfl, rfl, h⟩
    | error d => exact h.elim
  | error e =>
    cases y with
    | ok b => exact h.elim
    | error d => exact .inr ⟨e, d, rfl, rfl, h⟩

theorem mono {good' : α → β → Prop} {bad' : ε → δ → Prop} (h : EndAlike x y good bad)
    (hgood : ∀ a b, x = .ok a → y = .ok b → good a b → good' a b)
    (hbad : ∀ e d, bad e d → bad' e d) : EndAlike x y good' bad' := by
  obtain ⟨a, b, rfl, rfl, hab⟩ | ⟨e, d, rfl, rfl, hed⟩ := h.outcome
  · exact hgood a b rfl rfl hab
  · exact hbad e d hed

/-- **One pair of computations after another.** -/
theorem bind {f : α → Except ε α'} {g : β → Except δ β'} {after : α' → β' → Prop}
    (h : EndAlike x y good bad) (hf : ∀ a b, good a b → EndAlike (f a) (g b) after bad) :
    EndAlike (x >>= f) (y >>= g) after bad := by
  obtain ⟨a, b, rfl, rfl, hab⟩ | ⟨e, d, rfl, rfl, hed⟩ := h.outcome
  · exact hf a b hab
  · exact hed

/-- **The same computation before two others.** -/
theorem bind_same {x : Except ε α} {f : α → Except ε α'} {g : α → Except ε β'}
    {after : α' → β' → Prop} {bad : ε → ε → Prop} (hbad : ∀ e, bad e e)
    (hf : ∀ a, EndAlike (f a) (g a) after bad) : EndAlike (x >>= f) (x >>= g) after bad := by
  cases x with
  | ok a => exact hf a
  | error e => exact hbad e

theorem map {f : α → α'} {g : β → β'} {after : α' → β' → Prop} (h : EndAlike x y good bad)
    (hf : ∀ a b, good a b → after (f a) (g b)) : EndAlike (x.map f) (y.map g) after bad := by
  obtain ⟨a, b, rfl, rfl, hab⟩ | ⟨e, d, rfl, rfl, hed⟩ := h.outcome
  · exact hf a b hab
  · exact hed

theorem mapError {f : ε → ε'} {g : δ → δ'} {bad' : ε' → δ' → Prop} (h : EndAlike x y good bad)
    (hf : ∀ e d, bad e d → bad' (f e) (g d)) :
    EndAlike (x.mapError f) (y.mapError g) good bad' := by
  obtain ⟨a, b, rfl, rfl, hab⟩ | ⟨e, d, rfl, rfl, hed⟩ := h.outcome
  · exact hab
  · exact hf e d hed

end EndAlike

/-- **Two computations go through together**, with values that `good` relates, or fail together. -/
abbrev GoAlike (x : Except ε α) (y : Except δ β) (good : α → β → Prop) : Prop :=
  EndAlike x y good fun _ _ => True

theorem EndAlike.exists_ok_iff {x : Except ε α} {y : Except δ β} {good : α → β → Prop}
    {bad : ε → δ → Prop} (h : EndAlike x y good bad) : (∃ a, x = .ok a) ↔ ∃ b, y = .ok b := by
  obtain ⟨a, b, rfl, rfl, -⟩ | ⟨e, d, rfl, rfl, -⟩ := h.outcome
  · exact iff_of_true ⟨a, rfl⟩ ⟨b, rfl⟩
  · simp

/-- A relation of two lists may be changed between the items that they hold. -/
theorem forall₂_imp_mem {R S : α → β → Prop} {xs : List α} {ys : List β}
    (h : List.Forall₂ R xs ys) (himp : ∀ x ∈ xs, ∀ y ∈ ys, R x y → S x y) :
    List.Forall₂ S xs ys := by
  induction h with
  | nil => exact .nil
  | cons hxy _ ih =>
    refine .cons (himp _ List.mem_cons_self _ List.mem_cons_self hxy) (ih fun x hx y hy => ?_)
    exact himp x (List.mem_cons_of_mem _ hx) y (List.mem_cons_of_mem _ hy)

theorem forall₂_congr_mem {R S : α → β → Prop} {xs : List α} {ys : List β}
    (h : ∀ x ∈ xs, ∀ y ∈ ys, R x y ↔ S x y) : List.Forall₂ R xs ys ↔ List.Forall₂ S xs ys := by
  constructor
  · exact fun hR => forall₂_imp_mem hR fun x hx y hy => (h x hx y hy).mp
  · exact fun hS => forall₂_imp_mem hS fun x hx y hy => (h x hx y hy).mpr

/-- Two lists are mapped to one list if their items are mapped to one, side by side. -/
theorem map_eq_map_iff_forall₂ {γ : Type} {f : α → γ} {g : β → γ} {xs : List α} {ys : List β} :
    xs.map f = ys.map g ↔ List.Forall₂ (fun x y => f x = g y) xs ys := by
  rw [← List.forall₂_eq_eq_eq, List.forall₂_map_left_iff, List.forall₂_map_right_iff]

/-- Where two lists are related, each item of the first is related to one of the second. -/
theorem exists_of_forall₂ {R : α → β → Prop} {xs : List α} {ys : List β}
    (h : List.Forall₂ R xs ys) {x : α} (hx : x ∈ xs) : ∃ y ∈ ys, R x y := by
  induction h with
  | nil => exact absurd hx List.not_mem_nil
  | cons hxy _ ih =>
    rcases List.mem_cons.mp hx with rfl | hx
    · exact ⟨_, List.mem_cons_self, hxy⟩
    · obtain ⟨y, hy, hR⟩ := ih hx
      exact ⟨y, List.mem_cons_of_mem _ hy, hR⟩

/-- **Two lists, item by item.** -/
theorem endAlike_mapM {f : α → Except ε α'} {g : β → Except δ β'} {same : α → β → Prop}
    {after : α' → β' → Prop} {bad : ε → δ → Prop} {xs : List α} {ys : List β}
    (hxs : List.Forall₂ same xs ys) (h : ∀ x ∈ xs, ∀ y, same x y → EndAlike (f x) (g y) after bad) :
    EndAlike (xs.mapM f) (ys.mapM g) (List.Forall₂ after) bad := by
  induction hxs with
  | nil => exact .nil
  | cons hsame _ ih =>
    obtain ⟨hhead, htail⟩ := List.forall_mem_cons.mp h
    rw [List.mapM_cons, List.mapM_cons]
    exact (hhead _ hsame).bind fun a b hab =>
      (ih htail).bind fun as bs habs => List.Forall₂.cons hab habs

theorem forall₂_zipIdx {R : α → β → Prop} {xs : List α} {ys : List β} (h : List.Forall₂ R xs ys)
    (index : Nat) :
    List.Forall₂ (fun x y => R x.1 y.1 ∧ x.2 = y.2) (xs.zipIdx index) (ys.zipIdx index) := by
  induction h generalizing index with
  | nil => exact .nil
  | cons hxy _ ih => exact .cons ⟨hxy, rfl⟩ (ih (index + 1))

/-- **Two lists, item by item, with their places.** -/
theorem endAlike_mapM_zipIdx {f : α × Nat → Except ε α'} {g : β × Nat → Except δ β'}
    {same : α → β → Prop} {after : α' → β' → Prop} {bad : ε → δ → Prop} {xs : List α} {ys : List β}
    (hxs : List.Forall₂ same xs ys)
    (h : ∀ x ∈ xs, ∀ y i, same x y → EndAlike (f (x, i)) (g (y, i)) after bad) :
    EndAlike (xs.zipIdx.mapM f) (ys.zipIdx.mapM g) (List.Forall₂ after) bad := by
  refine endAlike_mapM (forall₂_zipIdx hxs 0) ?_
  rintro ⟨x, i⟩ hx ⟨y, j⟩ ⟨hxy, rfl⟩
  exact h x (List.fst_mem_of_mem_zipIdx hx) y i hxy

/-- **Checks may be made in any order**, if it does not matter which of their errors is told. -/
theorem endAlike_forM_of_perm {f : α → Except ε Unit} {bad : ε → ε → Prop} {xs ys : List α}
    (hperm : xs.Perm ys)
    (hbad : ∀ x y e d, f x = .error e → f y = .error d → bad e d) :
    EndAlike (xs.forM f) (ys.forM f) (fun _ _ => True) bad := by
  cases hx : xs.forM f with
  | ok =>
    have hall : ∀ y ∈ ys, f y = .ok () := fun y hy =>
      forall_of_forM_eq_ok hx y (hperm.mem_iff.mpr hy)
    rw [forM_eq_ok_of_forall hall]
    trivial
  | error e =>
    obtain ⟨x, hmem, hfx⟩ := exists_of_forM_eq_error hx
    cases hy : ys.forM f with
    | ok =>
      have hok := forall_of_forM_eq_ok hy x (hperm.mem_iff.mp hmem)
      exact nomatch hok.symm.trans hfx
    | error d =>
      obtain ⟨y, -, hfy⟩ := exists_of_forM_eq_error hy
      exact hbad x y e d hfx hfy

end RuleFlow
