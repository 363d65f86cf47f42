import Mathlib.Data.List.Perm.Basic
import RuleFlow.Value.Basic

/-!
# The order of keys

Records keep the order in which their keys were given. Two values that differ in that order alone,
at any depth, are one value to whoever looks keys up.

* `RuleFlow.Value.Reordered` is the relation: neighbouring fields of different keys change places,
  inside any number of lists and records.
* `RuleFlow.Value.Reordered.of_scalar`, `exists_list` and `exists_record` take it apart.
* `RuleFlow.Value.Reordered.field`: what is looked up is related again.
* `RuleFlow.Value.Reordered.of_items` and `RuleFlow.Value.Reordered.of_perm` put it together.
-/

namespace RuleFlow

namespace Value

/-- **One value is another up to the order of keys**, at any depth. -/
inductive Reordered : Value → Value → Prop
  /-- A value as it is. -/
  | refl (v : Value) : Reordered v v
  /-- One change after another. -/
  | trans {u v w : Value} : Reordered u v → Reordered v w → Reordered u w
  /-- Two neighbouring fields of different keys change places. -/
  | swap (before : List (String × Value)) (f g : String × Value) (after : List (String × Value)) :
      f.1 ≠ g.1 → Reordered (.record (before ++ f :: g :: after))
        (.record (before ++ g :: f :: after))
  /-- A change inside an item of a list. -/
  | item (before : List Value) {v w : Value} (after : List Value) : Reordered v w →
      Reordered (.list (before ++ v :: after)) (.list (before ++ w :: after))
  /-- A change inside the value of a field. -/
  | value (before : List (String × Value)) (key : String) {v w : Value}
      (after : List (String × Value)) : Reordered v w →
      Reordered (.record (before ++ (key, v) :: after)) (.record (before ++ (key, w) :: after))

/-- A value that is neither a list nor a record. -/
def isScalar : Value → Bool
  | .list _ | .record _ => false
  | _ => true

namespace Reordered

variable {v w : Value} {fields fields' : List (String × Value)} {items items' : List Value}

theorem of_eq (h : v = w) : Reordered v w :=
  h ▸ .refl v

theorem forall₂_trans {items'' : List Value} (h : List.Forall₂ Reordered items items')
    (h' : List.Forall₂ Reordered items' items'') : List.Forall₂ Reordered items items'' := by
  induction h generalizing items'' with
  | nil => exact h'
  | cons hvw _ ih =>
    cases h' with
    | cons hwx htail => exact .cons (hvw.trans hwx) (ih htail)

/-! ### Taking the relation apart -/

/-- **A scalar** has no keys. -/
theorem of_scalar (h : Reordered v w) (hv : v.isScalar = true) : w = v := by
  induction h with
  | refl v => rfl
  | trans _ _ ih ih' =>
    obtain rfl := ih hv
    exact ih' hv
  | swap => exact nomatch hv
  | item => exact nomatch hv
  | value => exact nomatch hv

/-- **A list** keeps its items in their places. -/
theorem exists_list (h : Reordered (.list items) w) :
    ∃ items', w = .list items' ∧ List.Forall₂ Reordered items items' := by
  generalize hv : Value.list items = v at h
  induction h generalizing items with
  | refl v => exact ⟨items, hv.symm, List.forall₂_same.mpr fun v _ => .refl v⟩
  | trans _ _ ih ih' =>
    obtain ⟨items', rfl, hitems⟩ := ih hv
    obtain ⟨items'', rfl, hitems'⟩ := ih' rfl
    exact ⟨items'', rfl, forall₂_trans hitems hitems'⟩
  | swap => exact nomatch hv
  | item before after hvw _ =>
    obtain rfl := Value.list.inj hv
    refine ⟨_, rfl, List.rel_append ?_ (.cons hvw ?_)⟩
    · exact List.forall₂_same.mpr fun v _ => .refl v
    · exact List.forall₂_same.mpr fun v _ => .refl v
  | value => exact nomatch hv

end Reordered

end Value

/-- **Two keyed lists of values are one map**: they have as many entries, and what is looked up in
them is the same up to the order of keys. -/
structure Keyed.Agree (fields fields' : Keyed Value) : Prop where
  /-- There are as many entries. -/
  length : fields.length = fields'.length
  /-- What is looked up is related. -/
  find? : ∀ key, Option.Rel Value.Reordered (fields.find? key) (fields'.find? key)

namespace Keyed

variable {fields fields' fields'' : Keyed Value}

theorem rel_reordered_refl (x : Option Value) : Option.Rel Value.Reordered x x := by
  cases x with
  | none => exact .none
  | some v => exact .some (.refl v)

theorem rel_reordered_trans {x y z : Option Value} (h : Option.Rel Value.Reordered x y)
    (h' : Option.Rel Value.Reordered y z) : Option.Rel Value.Reordered x z := by
  cases h with
  | none => exact h'
  | some hvw =>
    cases h' with
    | some hwx => exact .some (hvw.trans hwx)

theorem Agree.refl (fields : Keyed Value) : Agree fields fields :=
  ⟨rfl, fun _ => rel_reordered_refl _⟩

theorem Agree.trans (h : Agree fields fields') (h' : Agree fields' fields'') :
    Agree fields fields'' := by
  exact ⟨h.length.trans h'.length, fun key => rel_reordered_trans (h.find? key) (h'.find? key)⟩

/-- An entry in front keeps two keyed lists in agreement. -/
theorem Agree.cons (h : Agree fields fields') (entry : String × Value) :
    Agree (entry :: fields) (entry :: fields') := by
  obtain ⟨key, v⟩ := entry
  refine ⟨by simp [h.length], fun name => ?_⟩
  rw [find?_cons, find?_cons]
  split_ifs
  · exact .some (.refl v)
  · exact h.find? name

theorem Agree.append (h : Agree fields fields') (before : Keyed Value) :
    Agree (before ++ fields) (before ++ fields') := by
  induction before with
  | nil => exact h
  | cons entry before ih => exact ih.cons entry

/-- Neighbouring entries of different keys may change places. -/
theorem Agree.swap (f g : String × Value) (after : Keyed Value) (hne : f.1 ≠ g.1) :
    Agree (f :: g :: after) (g :: f :: after) := by
  obtain ⟨key, v⟩ := f
  obtain ⟨key', v'⟩ := g
  refine ⟨rfl, fun name => ?_⟩
  simp only [find?_cons]
  by_cases hkey : name = key
  · subst hkey
    simp only [if_neg hne, ↓reduceIte]
    exact rel_reordered_refl _
  · simp only [if_neg hkey]
    exact rel_reordered_refl _

theorem Agree.value {key : String} {v w : Value} (after : Keyed Value) (h : Value.Reordered v w) :
    Agree ((key, v) :: after) ((key, w) :: after) := by
  refine ⟨rfl, fun name => ?_⟩
  simp only [find?_cons]
  split_ifs
  · exact .some h
  · exact rel_reordered_refl _

end Keyed

namespace Value

namespace Reordered

variable {v w : Value} {fields fields' : List (String × Value)} {items items' : List Value}

/-- **A record** stays the same map. -/
theorem exists_record (h : Reordered (.record fields) w) :
    ∃ fields', w = .record fields' ∧ Keyed.Agree fields fields' := by
  -- Induction on the relation, so the record is a variable; after a first change it is another one.
  generalize hv : Value.record fields = v at h
  induction h generalizing fields with
  | refl v => exact ⟨fields, hv.symm, .refl fields⟩
  | trans _ _ ih ih' =>
    obtain ⟨fields', rfl, hfields⟩ := ih hv
    obtain ⟨fields'', rfl, hfields'⟩ := ih' rfl
    exact ⟨fields'', rfl, hfields.trans hfields'⟩
  | swap before f g after hne =>
    obtain rfl := Value.record.inj hv
    exact ⟨_, rfl, (Keyed.Agree.swap f g after hne).append before⟩
  | item => exact nomatch hv
  | value before key after hvw _ =>
    obtain rfl := Value.record.inj hv
    exact ⟨_, rfl, (Keyed.Agree.value after hvw).append before⟩

/-- **The three kinds of related values.** -/
theorem elim (h : Reordered v w) :
    (v.isScalar = true ∧ w = v) ∨
      (∃ items items', v = .list items ∧ w = .list items' ∧
        List.Forall₂ Reordered items items') ∨
      ∃ fields fields', v = .record fields ∧ w = .record fields' ∧
        Keyed.Agree fields fields' := by
  cases v with
  | list items =>
    obtain ⟨items', rfl, hitems⟩ := h.exists_list
    exact .inr (.inl ⟨items, items', rfl, rfl, hitems⟩)
  | record fields =>
    obtain ⟨fields', rfl, hfields⟩ := h.exists_record
    exact .inr (.inr ⟨fields, fields', rfl, rfl, hfields⟩)
  | _ => exact .inl ⟨rfl, h.of_scalar rfl⟩

/-! ### What does not depend on the order of keys -/

/-- **A field** of related values. -/
theorem field (h : Reordered v w) (key : String) : Reordered (v.field key) (w.field key) := by
  rcases h.elim with ⟨-, rfl⟩ | ⟨_, _, rfl, rfl, -⟩ | ⟨fields, fields', rfl, rfl, hfields⟩
  · exact .refl _
  · exact .refl _
  · have hkey := hfields.find? key
    rw [Value.field, Value.field]
    revert hkey
    cases Keyed.find? fields key <;> cases Keyed.find? fields' key
    all_goals
      intro hkey
      cases hkey
    · exact .refl _
    · next hvw => exact hvw

/-- A field of related values that may not be there. -/
theorem field? (h : Reordered v w) (key : String) :
    Option.Rel Reordered (v.field? key) (w.field? key) := by
  rcases h.elim with ⟨-, rfl⟩ | ⟨_, _, rfl, rfl, -⟩ | ⟨fields, fields', rfl, rfl, hfields⟩
  · exact Keyed.rel_reordered_refl _
  · exact .none
  · exact hfields.find? key

theorem truthy_eq (h : Reordered v w) : v.truthy = w.truthy := by
  rcases h.elim with ⟨-, rfl⟩ | ⟨items, items', rfl, rfl, hitems⟩ |
    ⟨fields, fields', rfl, rfl, hfields⟩
  · rfl
  · simp only [truthy]
    cases hitems <;> rfl
  · have hempty : fields.isEmpty = fields'.isEmpty := by
      rw [Bool.eq_iff_iff, List.isEmpty_iff_length_eq_zero, List.isEmpty_iff_length_eq_zero,
        hfields.length]
    rw [truthy, truthy, hempty]

theorem isNull_eq (h : Reordered v w) : v.isNull = w.isNull := by
  rcases h.elim with ⟨-, rfl⟩ | ⟨_, _, rfl, rfl, -⟩ | ⟨_, _, rfl, rfl, -⟩ <;> rfl

/-- The first of two values that counts as true. -/
theorem orElse {v' w' : Value} (h : Reordered v w) (h' : Reordered v' w') :
    Reordered (v.orElse v') (w.orElse w') := by
  rw [Value.orElse, Value.orElse, h.truthy_eq]
  split_ifs
  · exact h
  · exact h'

/-! ### Putting the relation together -/

/-- **Lists of related items.** -/
theorem of_items (h : List.Forall₂ Reordered items items') :
    Reordered (.list items) (.list items') := by
  suffices hbefore : ∀ before : List Value,
      Reordered (.list (before ++ items)) (.list (before ++ items')) from hbefore []
  induction h with
  | nil => exact fun _ => .refl _
  | @cons v w items items' hvw _ ih =>
    intro before
    refine (item before items hvw).trans ?_
    simpa using ih (before ++ [w])

/-- **Records of related fields.** -/
theorem of_fields (h : List.Forall₂ (fun f g => f.1 = g.1 ∧ Reordered f.2 g.2) fields fields') :
    Reordered (.record fields) (.record fields') := by
  suffices hbefore : ∀ before : List (String × Value),
      Reordered (.record (before ++ fields)) (.record (before ++ fields')) from hbefore []
  induction h with
  | nil => exact fun _ => .refl _
  | @cons f g fields fields' hfg _ ih =>
    intro before
    obtain ⟨key, v⟩ := f
    obtain ⟨key', w⟩ := g
    obtain ⟨rfl, hvw⟩ : key = key' ∧ Reordered v w := hfg
    refine (value before key fields hvw).trans ?_
    simpa using ih (before ++ [(key, w)])

/-- **Records of the same fields in another order**, where no key is given twice. -/
theorem of_perm (hperm : fields.Perm fields') (hkeys : (Keyed.keys fields).Nodup) :
    Reordered (.record fields) (.record fields') := by
  suffices hbefore : ∀ before : List (String × Value),
      Reordered (.record (before ++ fields)) (.record (before ++ fields')) from hbefore []
  induction hperm with
  | nil => exact fun _ => .refl _
  | cons f _ ih =>
    intro before
    have htail := ih (List.nodup_cons.mp hkeys).2 (before ++ [f])
    simpa using htail
  | swap f g fields =>
    intro before
    refine swap before g f fields fun heq => ?_
    exact (List.nodup_cons.mp hkeys).1 (List.mem_cons.mpr (.inl heq))
  | trans hperm _ ih ih' =>
    intro before
    have hkeys' := (hperm.map Prod.fst).nodup_iff.mp hkeys
    exact (ih hkeys before).trans (ih' hkeys' before)

end Reordered

end Value

end RuleFlow
