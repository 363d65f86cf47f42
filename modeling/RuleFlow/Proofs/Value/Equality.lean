import Mathlib.Data.List.Perm.Subperm
import RuleFlow.Proofs.Alike
import RuleFlow.Proofs.Calendar.DayNumber
import RuleFlow.Proofs.Number.Order
import RuleFlow.Proofs.Value.Comparison
import RuleFlow.Proofs.Value.Reordered

/-!
# Equality from either side

Values that are equal are equal from either side, as long as no record has a key twice. But equality
may also fail, at a number that signals, and whether it comes to that number can depend on the side
from which it is asked: records are gone through in the order of the keys of the first.

* `RuleFlow.Value.same_list_eq_true_iff` and `RuleFlow.Value.same_record_eq_true_iff` say what equal
  lists and records are.
* `RuleFlow.Value.sameItem_swap` and `RuleFlow.Value.WellKeyed.same_swap`: equality that is found is
  found from the other side.
* `RuleFlow.Value.WellKeyed.same_comm_iff`: the two sides differ in nothing but what clashes.
* `RuleFlow.Value.Clashes.swap`: they do not differ where no record holds a number that signals.
-/

namespace RuleFlow

/-! ### Keyed lists without double keys -/

namespace Keyed

variable {α : Type} {entries entries' : Keyed α} {key : String} {value : α}

/-- A value that is found stands in the list. -/
theorem mem_of_find? (h : entries.find? key = some value) : (key, value) ∈ entries := by
  obtain ⟨before, after, rfl, -⟩ := List.lookup_eq_some_iff.mp h
  exact List.mem_append_right _ List.mem_cons_self

/-- **Where no key comes twice**, every entry is found. -/
theorem find?_of_mem (hkeys : entries.keys.Nodup) {entry : String × α} (h : entry ∈ entries) :
    entries.find? entry.1 = some entry.2 := by
  induction entries with
  | nil => exact absurd h List.not_mem_nil
  | cons first rest ih =>
    obtain ⟨hnew, hrest⟩ := List.nodup_cons.mp hkeys
    rw [find?_cons]
    rcases List.mem_cons.mp h with rfl | hmem
    · exact if_pos rfl
    · have hne : entry.1 ≠ first.1 := fun heq => hnew (List.mem_map.mpr ⟨entry, hmem, heq⟩)
      rw [if_neg hne]
      exact ih hrest hmem

/-- As many keys, all different, are the same keys if those of the one list are in the other. -/
theorem keys_subset_of_length_eq (hkeys : entries.keys.Nodup)
    (hsubset : entries.keys ⊆ entries'.keys) (hlength : entries.length = entries'.length) :
    entries'.keys ⊆ entries.keys := by
  have hle : entries'.keys.length ≤ entries.keys.length := by simp [keys, hlength]
  exact ((List.subperm_of_subset hkeys hsubset).perm_of_length_le hle).symm.subset

end Keyed

namespace Value

variable {v w : Value}

/-! ### Equal lists and records -/

theorem sameItems_eq_true_iff {vs ws : List Value} (hlength : vs.length = ws.length) :
    sameItems vs ws = .ok true ↔ List.Forall₂ (fun v w => sameItem v w = .ok true) vs ws := by
  induction vs generalizing ws with
  | nil =>
    obtain rfl := List.eq_nil_of_length_eq_zero hlength.symm
    exact iff_of_true rfl .nil
  | cons v vs ih =>
    cases ws with
    | nil => exact nomatch hlength
    | cons w ws =>
      rw [sameItems_cons, List.forall₂_cons, ← ih (Nat.succ.inj hlength)]
      cases sameItem v w with
      | ok equal => cases equal <;> simp
      | error f => simp

theorem sameFields_eq_true_iff {fields fields' : List (String × Value)} :
    sameFields fields fields' = .ok true ↔
      ∀ f ∈ fields, ∃ w, Keyed.find? fields' f.1 = some w ∧ sameItem f.2 w = .ok true := by
  induction fields with
  | nil => exact iff_of_true rfl nofun
  | cons f fields ih =>
    rw [sameFields_cons, List.forall_mem_cons, ← ih]
    cases Keyed.find? fields' f.1 with
    | none => simp
    | some w =>
      simp only [Option.some.injEq, exists_eq_left']
      cases sameItem f.2 w with
      | ok equal => cases equal <;> simp
      | error e => simp

/-- **What is equal to a list** is a list of items that are the same one by one. -/
theorem same_list_eq_true_iff {items : List Value} :
    same (.list items) w = .ok true ↔
      ∃ items', w = .list items' ∧
        List.Forall₂ (fun v w => sameItem v w = .ok true) items items' := by
  cases w with
  | list items' =>
    rw [same]
    split_ifs with hlength
    · simp [sameItems_eq_true_iff hlength]
    · refine iff_of_false nofun ?_
      rintro ⟨_, heq, hitems⟩
      exact hlength (Value.list.inj heq ▸ hitems.length_eq)
  | _ => exact iff_of_false nofun nofun

/-- **What is equal to a record** is a record of as many fields, in which every field of the one is
found with a value that is the same. -/
theorem same_record_eq_true_iff {fields : List (String × Value)} :
    same (.record fields) w = .ok true ↔
      ∃ fields', w = .record fields' ∧ fields.length = fields'.length ∧
        ∀ f ∈ fields, ∃ w, Keyed.find? fields' f.1 = some w ∧ sameItem f.2 w = .ok true := by
  cases w with
  | record fields' =>
    rw [same]
    split_ifs with hlength
    · simp [sameFields_eq_true_iff, hlength]
    · refine iff_of_false nofun ?_
      rintro ⟨_, heq, hlength', -⟩
      exact hlength (Value.record.inj heq ▸ hlength')
  | _ => exact iff_of_false nofun nofun

/-! ### Equality that is found -/

theorem sameNumber_comm (d e : Number.Decimal) : sameNumber d e = sameNumber e d := by
  have hequal : (Number.Decimal.compare? d e == some .eq) =
      (Number.Decimal.compare? e d == some .eq) := by
    rw [Number.Decimal.compare?_swap d e]
    cases Number.Decimal.compare? d e with
    | none => rfl
    | some o => cases o <;> rfl
  rw [sameNumber, sameNumber, hequal, Bool.or_comm]

/-- **Numbers that have an order** are equal where it says so. -/
theorem sameNumber_of_compare? {d e : Number.Decimal} {o : Ordering}
    (h : Number.Decimal.compare? d e = some o) : sameNumber d e = .ok (o == .eq) := by
  have hsignals : (d.isSignaling || e.isSignaling) = false := by
    cases d with
    | nan => exact nomatch h
    | _ =>
      cases e with
      | nan => exact nomatch h
      | _ => rfl
  rw [sameNumber, hsignals, h]
  rfl

theorem same_comm_of_number? {d e : Number.Decimal} (hv : v.number? = some d)
    (hw : w.number? = some e) : same v w = same w v := by
  rw [same_of_number? hv, same_of_number? hw, hv, hw]
  exact sameNumber_comm d e

/-- **Equality with a scalar** is the same from either side, and fails from both or from none. -/
theorem same_comm_of_isScalar (hv : v.isScalar = true) (w : Value) : same v w = same w v := by
  cases v with
  | null => cases w <;> rfl
  | text s =>
    cases w with
    | text t => exact congrArg Except.ok BEq.comm
    | _ => rfl
  | temporal t =>
    cases w with
    | temporal u => exact congrArg Except.ok (t.same_comm u)
    | _ => rfl
  | bool | int | float | decimal =>
    cases w with
    | bool | int | float | decimal => exact same_comm_of_number? rfl rfl
    | _ => rfl
  | list items => exact nomatch hv
  | record fields => exact nomatch hv

theorem identical_comm (v w : Value) : identical v w = identical w v := by
  have hnan : ∀ x y : Number.Binary64, x.sameNan y = y.sameNan x := by
    intro x y
    cases x with
    | nan which =>
      cases y with
      | nan which' =>
        rw [Bool.eq_iff_iff]
        simp only [Number.Binary64.sameNan, Bool.and_eq_true, beq_iff_eq, bne_iff_ne]
        constructor
        · rintro ⟨rfl, hfresh⟩
          exact ⟨rfl, hfresh⟩
        · rintro ⟨rfl, hfresh⟩
          exact ⟨rfl, hfresh⟩
      | _ => rfl
    | _ => cases y <;> rfl
  cases v with
  | float x =>
    cases w with
    | float y => exact hnan x y
    | _ => rfl
  | _ => cases w <;> rfl

/-- **Items that are the same** are the same from the other side, if that holds of equality. -/
theorem sameItem_swap (hsame : same v w = .ok true → same w v = .ok true)
    (h : sameItem v w = .ok true) : sameItem w v = .ok true := by
  rw [sameItem, orIdentical] at h ⊢
  rw [identical_comm w v]
  split_ifs at h ⊢
  · rfl
  · exact hsame h

/-- **Values whose records have no key twice**, at any depth. -/
inductive WellKeyed : Value → Prop
  /-- What is neither a list nor a record has no keys. -/
  | scalar {v : Value} : v.isScalar = true → WellKeyed v
  /-- The items of a list are well keyed. -/
  | list {items : List Value} : (∀ v ∈ items, WellKeyed v) → WellKeyed (.list items)
  /-- The keys of a record are different, and its values are well keyed. -/
  | record {fields : List (String × Value)} : (Keyed.keys fields).Nodup →
      (∀ f ∈ fields, WellKeyed f.2) → WellKeyed (.record fields)

/-- **Equality that is found is found from the other side.** -/
theorem WellKeyed.same_swap (hv : v.WellKeyed) (hw : w.WellKeyed) (h : same v w = .ok true) :
    same w v = .ok true := by
  induction hv generalizing w with
  | scalar hscalar => exact same_comm_of_isScalar hscalar w ▸ h
  | list _ ih =>
    obtain ⟨items', rfl, hitems⟩ := same_list_eq_true_iff.mp h
    cases hw with
    | scalar hscalar => exact nomatch hscalar
    | list hitems' =>
      refine same_list_eq_true_iff.mpr ⟨_, rfl, ?_⟩
      exact (forall₂_imp_mem hitems fun v hv w hw => sameItem_swap (ih v hv (hitems' w hw))).flip
  | @record fields hkeys _ ih =>
    obtain ⟨fields', rfl, hlength, hfields⟩ := same_record_eq_true_iff.mp h
    cases hw with
    | scalar hscalar => exact nomatch hscalar
    | record hkeys' hfields' =>
      have hsubset : Keyed.keys fields ⊆ Keyed.keys fields' := by
        intro key hkey
        obtain ⟨f, hf, rfl⟩ := List.mem_map.mp hkey
        obtain ⟨w, hfind, -⟩ := hfields f hf
        exact List.mem_map.mpr ⟨_, Keyed.mem_of_find? hfind, rfl⟩
      refine same_record_eq_true_iff.mpr ⟨fields, rfl, hlength.symm, fun g hg => ?_⟩
      -- No key of the second record is new, as there are no more keys in it than in the first.
      obtain ⟨f, hf, hkey⟩ := List.mem_map.mp
        (Keyed.keys_subset_of_length_eq hkeys hsubset hlength (List.mem_map_of_mem hg))
      obtain ⟨w, hfind, hsame⟩ := hfields f hf
      obtain rfl : w = g.2 := by
        rw [hkey, Keyed.find?_of_mem hkeys' hg] at hfind
        exact (Option.some.inj hfind).symm
      exact ⟨f.2, hkey ▸ Keyed.find?_of_mem hkeys hf,
        sameItem_swap (ih f hf (hfields' g hg)) hsame⟩

/-- **Equality is the same from either side** if and only if it fails from both or from none. -/
theorem WellKeyed.same_comm_iff (hv : v.WellKeyed) (hw : w.WellKeyed) :
    same v w = same w v ↔ (Clashes v w ↔ Clashes w v) := by
  constructor
  · intro h
    have hiff : ∀ v w, Clashes v w ↔ same v w = .error (.arithmetic .invalidOperation) :=
      fun v w => ⟨fun hclash => hclash.same_eq, fun hsame => (same_eq_error_iff.mp hsame).2⟩
    rw [hiff, hiff, h]
  · intro h
    cases hsame : same v w with
    | error f =>
      obtain ⟨rfl, hclash⟩ := same_eq_error_iff.mp hsame
      exact (h.mp hclash).same_eq.symm
    | ok equal =>
      cases hsame' : same w v with
      | error f =>
        have hclash := h.mpr (same_eq_error_iff.mp hsame').2
        exact nomatch hclash.same_eq.symm.trans hsame
      | ok equal' =>
        have hequal : equal = true ↔ equal' = true := by
          constructor
          · rintro rfl
            exact Except.ok.inj (hsame'.symm.trans (hv.same_swap hw hsame))
          · rintro rfl
            exact Except.ok.inj (hsame.symm.trans (hw.same_swap hv hsame'))
        rw [Bool.eq_iff_iff.mpr hequal]

/-! ### Numbers that signal -/

/-- **A value signals** if a number in it does, at any depth. -/
inductive Signals : Value → Prop
  /-- A decimal that signals. -/
  | decimal {d : Number.Decimal} : d.isSignaling = true → Signals (.decimal d)
  /-- An item of a list signals. -/
  | item {items : List Value} {v : Value} : v ∈ items → Signals v → Signals (.list items)
  /-- The value of a field signals. -/
  | value {fields : List (String × Value)} {f : String × Value} : f ∈ fields → Signals f.2 →
      Signals (.record fields)

/-- **A record in a value signals**, at any depth. -/
inductive SignalsInRecord : Value → Prop
  /-- The value of a field signals. -/
  | value {fields : List (String × Value)} {f : String × Value} : f ∈ fields → Signals f.2 →
      SignalsInRecord (.record fields)
  /-- A record in an item of a list signals. -/
  | item {items : List Value} {v : Value} : v ∈ items → SignalsInRecord v →
      SignalsInRecord (.list items)

/-- Of two values that clash, one signals. -/
theorem Clashes.signals (h : Clashes v w) : Signals v ∨ Signals w := by
  induction h with
  | number hd he hsignals =>
    refine hsignals.imp (fun hsignals => ?_) fun hsignals => ?_
    · exact exists_decimal_of_isSignaling hd hsignals ▸ .decimal hsignals
    · exact exists_decimal_of_isSignaling he hsignals ▸ .decimal hsignals
  | item _ _ _ ih => exact ih.imp (.item (by simp)) (.item (by simp))
  | @field _ _ _ key v w _ hfind _ _ ih =>
    refine ih.imp (fun hv => ?_) fun hw => ?_
    · exact .value (f := (key, v)) (by simp) hv
    · exact .value (f := (key, w)) (Keyed.mem_of_find? hfind) hw

/-- **What clashes, clashes from either side**, if no record in it signals: lists are gone through
in the same order from both sides. -/
theorem Clashes.swap (h : Clashes v w) (hv : v.WellKeyed) (hw : w.WellKeyed)
    (hsilent : ¬v.SignalsInRecord) (hsilent' : ¬w.SignalsInRecord) : Clashes w v := by
  induction h with
  | number hd he hsignals => exact .number he hd hsignals.symm
  | @item before before' after after' v w hbefore _ hafter ih =>
    cases hv with
    | scalar hscalar => exact nomatch hscalar
    | list hitems =>
      cases hw with
      | scalar hscalar => exact nomatch hscalar
      | list hitems' =>
        have hmem : v ∈ before ++ v :: after := by simp
        have hmem' : w ∈ before' ++ w :: after' := by simp
        refine .item ?_ (ih (hitems v hmem) (hitems' w hmem') ?_ ?_) hafter.symm
        · refine (forall₂_imp_mem hbefore fun x hx y hy => ?_).flip
          exact sameItem_swap ((hitems x (List.mem_append_left _ hx)).same_swap
            (hitems' y (List.mem_append_left _ hy)))
        · exact fun hsignals => hsilent (.item hmem hsignals)
        · exact fun hsignals => hsilent' (.item hmem' hsignals)
  | @field before after fields key v w _ hfind hclash _ _ =>
    rcases hclash.signals with hsignals | hsignals
    · exact absurd (.value (f := (key, v)) (by simp) hsignals) hsilent
    · exact absurd (.value (f := (key, w)) (Keyed.mem_of_find? hfind) hsignals) hsilent'

end Value

end RuleFlow
