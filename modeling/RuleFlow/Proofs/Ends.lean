import Mathlib.Data.List.Basic

/-!
# What a computation comes to

Checks and runs are computations that may fail. What is proved of one says what a value that it
gives has, and what an error that it fails with has.

* `RuleFlow.Ends` is that statement.
* `RuleFlow.Ends.bind` chains two computations, and `RuleFlow.ends_foldlM` carries an invariant
  along a list.
* `RuleFlow.bind_eq_ok`, `RuleFlow.mem_of_mapM_eq_ok` and their companions take a computation
  apart that has gone through.
* `RuleFlow.mapM_eq_error_of_first` and `RuleFlow.exists_first_of_mapM_eq_error` do so for a list
  that has failed: its failure is that of the first item that fails.
-/

namespace RuleFlow

variable {ε δ α β : Type}

/-- **What a computation comes to**: a value of which `good` holds, or an error of which `bad`
holds. -/
def Ends (x : Except ε α) (good : α → Prop) (bad : ε → Prop) : Prop :=
  match x with
  | .ok a => good a
  | .error e => bad e

namespace Ends

variable {good : α → Prop} {bad : ε → Prop}

@[simp] theorem ok_iff (a : α) : Ends (.ok a : Except ε α) good bad ↔ good a := Iff.rfl

@[simp] theorem error_iff (e : ε) : Ends (.error e : Except ε α) good bad ↔ bad e := Iff.rfl

theorem of_ok {x : Except ε α} {a : α} (h : Ends x good bad) (hx : x = .ok a) : good a := by
  subst hx
  exact h

theorem of_error {x : Except ε α} {e : ε} (h : Ends x good bad) (hx : x = .error e) : bad e := by
  subst hx
  exact h

/-- Where errors do not matter, only the values that a computation may give are looked at. -/
theorem of_forall_ok {x : Except ε α} (h : ∀ a, x = .ok a → good a) :
    Ends x good fun _ => True := by
  cases x with
  | ok a => exact h a rfl
  | error e => trivial

theorem mono {x : Except ε α} {good' : α → Prop} {bad' : ε → Prop} (h : Ends x good bad)
    (hgood : ∀ a, good a → good' a) (hbad : ∀ e, bad e → bad' e) : Ends x good' bad' := by
  cases x with
  | ok a => exact hgood a h
  | error e => exact hbad e h

/-- **One computation after another.** -/
theorem bind {x : Except ε α} {f : α → Except ε β} {after : β → Prop} (h : Ends x good bad)
    (hf : ∀ a, good a → Ends (f a) after bad) : Ends (x >>= f) after bad := by
  cases x with
  | ok a => exact hf a h
  | error e => exact h

/-- A computation after a value. -/
theorem ok_bind {a : α} {f : α → Except ε β} {after : β → Prop} (h : Ends (f a) after bad) :
    Ends (.ok a >>= f) after bad :=
  h

theorem map {x : Except ε α} {f : α → β} {after : β → Prop} (h : Ends x good bad)
    (hf : ∀ a, good a → after (f a)) : Ends (x.map f) after bad := by
  cases x with
  | ok a => exact hf a h
  | error e => exact h

theorem mapError {x : Except ε α} {f : ε → δ} {bad' : δ → Prop} (h : Ends x good bad)
    (hf : ∀ e, bad e → bad' (f e)) : Ends (x.mapError f) good bad' := by
  cases x with
  | ok a => exact h
  | error e => exact hf e h

end Ends

theorem forall_mem_snoc {P : α → Prop} {xs : List α} {x : α} :
    (∀ y ∈ xs ++ [x], P y) ↔ (∀ y ∈ xs, P y) ∧ P x := by
  rw [List.forall_mem_append, List.forall_mem_singleton]

/-- **An invariant along a list**: what holds of the items done so far and of the state is kept by
every further item, so that it holds of the whole list in the end. -/
theorem ends_foldlM (f : β → α → Except ε β) (inv : List α → β → Prop) (bad : ε → Prop)
    {items : List α} {b : β} (start : inv [] b)
    (step : ∀ before x after b, items = before ++ x :: after → inv before b →
      Ends (f b x) (inv (before ++ [x])) bad) :
    Ends (items.foldlM f b) (inv items) bad := by
  suffices h : ∀ after before b, items = before ++ after → inv before b →
      Ends (after.foldlM f b) (inv items) bad from h items [] b rfl start
  intro after
  induction after with
  | nil =>
    intro before b hitems hinv
    obtain rfl : items = before := by simpa using hitems
    exact hinv
  | cons x after ih =>
    intro before b hitems hinv
    rw [List.foldlM_cons]
    refine (step before x after b hitems hinv).bind fun b' hb' => ?_
    exact ih (before ++ [x]) b' (by simpa using hitems) hb'

/-- **A list of computations**: their values, each of which fits its item, or the error of one. -/
theorem ends_mapM_forall₂ {f : α → Except ε β} {good : α → β → Prop} {xs : List α}
    {bad : ε → Prop} (h : ∀ x ∈ xs, Ends (f x) (good x) bad) :
    Ends (xs.mapM f) (List.Forall₂ good xs) bad := by
  induction xs with
  | nil => exact .nil
  | cons x xs ih =>
    obtain ⟨hx, hxs⟩ := List.forall_mem_cons.mp h
    rw [List.mapM_cons]
    exact hx.bind fun _ hy => (ih hxs).bind fun _ hys => List.Forall₂.cons hy hys

theorem ends_mapM {f : α → Except ε β} {xs : List α} {bad : ε → Prop}
    (h : ∀ x ∈ xs, Ends (f x) (fun _ => True) bad) :
    Ends (xs.mapM f) (fun _ => True) bad :=
  (ends_mapM_forall₂ h).mono (fun _ _ => trivial) fun _ he => he

/-! ### Computations that go through -/

theorem bind_eq_ok {x : Except ε α} {f : α → Except ε β} {b : β} :
    x >>= f = .ok b ↔ ∃ a, x = .ok a ∧ f a = .ok b := by
  cases x with
  | ok a =>
    refine ⟨fun h => ⟨a, rfl, h⟩, ?_⟩
    rintro ⟨a', ha, h⟩
    exact Except.ok.inj ha ▸ h
  | error e =>
    refine ⟨(nomatch ·), ?_⟩
    rintro ⟨a, ha, -⟩
    exact nomatch ha

theorem map_eq_ok {x : Except ε α} {f : α → β} {b : β} :
    x.map f = .ok b ↔ ∃ a, x = .ok a ∧ f a = b := by
  cases x with
  | ok a => simp [Except.map]
  | error e => simp [Except.map]

theorem map_eq_error {x : Except ε α} {f : α → β} {e : ε} :
    x.map f = .error e ↔ x = .error e := by
  cases x with
  | ok a => simp [Except.map]
  | error e => simp [Except.map]

theorem mapError_eq_ok {x : Except ε α} {f : ε → δ} {a : α} :
    x.mapError f = .ok a ↔ x = .ok a := by
  cases x with
  | ok a => simp [Except.mapError]
  | error e => simp [Except.mapError]

theorem mapError_eq_error {x : Except ε α} {f : ε → δ} {d : δ} :
    x.mapError f = .error d ↔ ∃ e, x = .error e ∧ f e = d := by
  cases x with
  | ok a => simp [Except.mapError]
  | error e => simp [Except.mapError]

theorem mapM_cons_eq_ok {f : α → Except ε β} {x : α} {xs : List α} {zs : List β} :
    (x :: xs).mapM f = .ok zs ↔ ∃ y ys, f x = .ok y ∧ xs.mapM f = .ok ys ∧ y :: ys = zs := by
  rw [List.mapM_cons, bind_eq_ok]
  constructor
  · rintro ⟨y, hy, h⟩
    obtain ⟨ys, hys, h⟩ := bind_eq_ok.mp h
    exact ⟨y, ys, hy, hys, Except.ok.inj h⟩
  · rintro ⟨y, ys, hy, hys, rfl⟩
    exact ⟨y, hy, bind_eq_ok.mpr ⟨ys, hys, rfl⟩⟩

theorem length_of_mapM_eq_ok {f : α → Except ε β} {xs : List α} {ys : List β}
    (h : xs.mapM f = .ok ys) : ys.length = xs.length := by
  induction xs generalizing ys with
  | nil =>
    obtain rfl : [] = ys := Except.ok.inj h
    rfl
  | cons x xs ih =>
    obtain ⟨y, ys, -, hys, rfl⟩ := mapM_cons_eq_ok.mp h
    exact congrArg Nat.succ (ih hys)

/-- Going through all items of a list means going through each of them. -/
theorem mem_of_mapM_eq_ok {f : α → Except ε β} {xs : List α} {ys : List β}
    (h : xs.mapM f = .ok ys) :
    (∀ x ∈ xs, ∃ y ∈ ys, f x = .ok y) ∧ ∀ y ∈ ys, ∃ x ∈ xs, f x = .ok y := by
  induction xs generalizing ys with
  | nil =>
    obtain rfl : [] = ys := Except.ok.inj h
    simp
  | cons x xs ih =>
    obtain ⟨y, ys, hy, hys, rfl⟩ := mapM_cons_eq_ok.mp h
    obtain ⟨hleft, hright⟩ := ih hys
    constructor
    · refine List.forall_mem_cons.mpr ⟨⟨y, List.mem_cons_self, hy⟩, fun x' hx' => ?_⟩
      obtain ⟨y', hy', h⟩ := hleft x' hx'
      exact ⟨y', List.mem_cons_of_mem _ hy', h⟩
    · refine List.forall_mem_cons.mpr ⟨⟨x, List.mem_cons_self, hy⟩, fun y' hy' => ?_⟩
      obtain ⟨x', hx', h⟩ := hright y' hy'
      exact ⟨x', List.mem_cons_of_mem _ hx', h⟩

theorem exists_mapM_eq_ok {f : α → Except ε β} {xs : List α}
    (h : ∀ x ∈ xs, ∃ y, f x = .ok y) : ∃ ys, xs.mapM f = .ok ys := by
  induction xs with
  | nil => exact ⟨[], rfl⟩
  | cons x xs ih =>
    obtain ⟨y, hy⟩ := h x List.mem_cons_self
    obtain ⟨ys, hys⟩ := ih fun x hx => h x (List.mem_cons_of_mem _ hx)
    exact ⟨y :: ys, mapM_cons_eq_ok.mpr ⟨y, ys, hy, hys, rfl⟩⟩

/-- **The first failure along a list** is that of the whole list. -/
theorem mapM_eq_error_of_first {f : α → Except ε β} {xs : List α} {i : Nat} {x : α} {e : ε}
    (hx : xs[i]? = some x) (he : f x = .error e)
    (hbefore : ∀ j < i, ∀ y, xs[j]? = some y → ∃ z, f y = .ok z) : xs.mapM f = .error e := by
  induction xs generalizing i with
  | nil => exact nomatch hx
  | cons first rest ih =>
    rw [List.mapM_cons]
    cases i with
    | zero =>
      obtain rfl := Option.some.inj hx
      rw [he]
      rfl
    | succ i =>
      obtain ⟨z, hz⟩ := hbefore 0 (Nat.zero_lt_succ i) first rfl
      have hrest := ih (by simpa using hx) fun j hj y hy =>
        hbefore (j + 1) (Nat.succ_lt_succ hj) y (by simpa using hy)
      rw [hz, hrest]
      rfl

/-- A list that fails does so at the first of its items that does. -/
theorem exists_first_of_mapM_eq_error {f : α → Except ε β} {xs : List α} {e : ε}
    (h : xs.mapM f = .error e) :
    ∃ (i : Nat) (x : α), xs[i]? = some x ∧ f x = .error e ∧
      ∀ j < i, ∀ y, xs[j]? = some y → ∃ z, f y = .ok z := by
  induction xs with
  | nil => exact nomatch h
  | cons first rest ih =>
    rw [List.mapM_cons] at h
    cases hfirst : f first with
    | error e' =>
      rw [hfirst] at h
      obtain rfl : e' = e := Except.error.inj h
      exact ⟨0, first, rfl, hfirst, fun j hj => absurd hj (Nat.not_lt_zero j)⟩
    | ok z =>
      cases hrest : rest.mapM f with
      | ok zs =>
        rw [hfirst, hrest] at h
        exact nomatch h
      | error e' =>
        rw [hfirst, hrest] at h
        obtain rfl : e' = e := Except.error.inj h
        obtain ⟨i, x, hx, he, hbefore⟩ := ih hrest
        refine ⟨i + 1, x, by simpa using hx, he, fun j hj y hy => ?_⟩
        cases j with
        | zero =>
          obtain rfl := Option.some.inj hy
          exact ⟨z, hfirst⟩
        | succ j => exact hbefore j (Nat.lt_of_succ_lt_succ hj) y (by simpa using hy)

theorem forall_of_forM_eq_ok {f : α → Except ε Unit} {xs : List α}
    (h : xs.forM f = .ok ()) : ∀ x ∈ xs, f x = .ok () := by
  induction xs with
  | nil => simp
  | cons x xs ih =>
    obtain ⟨_, hx, h⟩ := bind_eq_ok.mp (show (f x >>= fun _ => xs.forM f) = .ok () from h)
    exact List.forall_mem_cons.mpr ⟨hx, ih h⟩

theorem forM_eq_ok_of_forall {f : α → Except ε Unit} {xs : List α}
    (h : ∀ x ∈ xs, f x = .ok ()) : xs.forM f = .ok () := by
  induction xs with
  | nil => rfl
  | cons x xs ih =>
    obtain ⟨hx, hxs⟩ := List.forall_mem_cons.mp h
    exact bind_eq_ok.mpr ⟨(), hx, ih hxs⟩

/-- A list of checks that fails does so at one of its items. -/
theorem exists_of_forM_eq_error {f : α → Except ε Unit} {xs : List α} {e : ε}
    (h : xs.forM f = .error e) : ∃ x ∈ xs, f x = .error e := by
  induction xs with
  | nil => exact nomatch h
  | cons x xs ih =>
    have h' : (f x >>= fun _ => xs.forM f) = .error e := h
    cases hx : f x with
    | error e' =>
      rw [hx] at h'
      obtain rfl : e' = e := Except.error.inj h'
      exact ⟨x, List.mem_cons_self, hx⟩
    | ok =>
      rw [hx] at h'
      obtain ⟨y, hy, he⟩ := ih h'
      exact ⟨y, List.mem_cons_of_mem _ hy, he⟩

end RuleFlow
