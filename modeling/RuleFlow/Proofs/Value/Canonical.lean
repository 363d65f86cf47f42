import RuleFlow.Proofs.Alike
import RuleFlow.Proofs.Value.Reordered
import RuleFlow.Rule.Canonical

/-!
# The canonical form of values

The canonical form sorts the keys of every record, and leaves fields of one key in their order. So
it forgets the order of keys, and nothing else.

## Sorting by keys

A sorted list of fields is determined by what it holds for each key
(`RuleFlow.SortedFields.eq_of_fieldsOf`), and sorting keeps that (`RuleFlow.fieldsOf_mergeSort`). It
is not changed where fields of different keys change places.

* `RuleFlow.Value.canonical_canonical`: the canonical form of a canonical form is that form.
* `RuleFlow.Value.Reordered.canonical_eq`: values that differ in the order of keys have one form.
* `RuleFlow.Value.IsJson.canonical_eq_iff`: among the values of documents no others have.
-/

namespace RuleFlow

open Value (keyOrder)

variable {fields fields' : List (String × Value)} {key : String}

/-! ### Sorting by keys -/

theorem keyOrder_trans (f g h : String × Value) (hfg : keyOrder f g = true)
    (hgh : keyOrder g h = true) : keyOrder f h = true := by
  simp only [keyOrder, decide_eq_true_eq] at *
  exact String.le_trans hfg hgh

theorem keyOrder_total (f g : String × Value) : (keyOrder f g || keyOrder g f) = true := by
  simp only [keyOrder, Bool.or_eq_true, decide_eq_true_eq]
  exact String.le_total f.1 g.1

/-- Fields in the order of their keys. -/
def SortedFields (fields : List (String × Value)) : Prop :=
  fields.Pairwise fun f g => keyOrder f g = true

theorem sortedFields_mergeSort (fields : List (String × Value)) :
    SortedFields (fields.mergeSort keyOrder) :=
  List.pairwise_mergeSort keyOrder_trans keyOrder_total fields

/-- What a list of fields holds for a key. -/
def fieldsOf (key : String) (fields : List (String × Value)) : List (String × Value) :=
  fields.filter fun f => f.1 == key

@[simp] theorem fieldsOf_cons_self (f : String × Value) :
    fieldsOf f.1 (f :: fields) = f :: fieldsOf f.1 fields := by
  simp [fieldsOf]

theorem mem_fieldsOf {f : String × Value} : f ∈ fieldsOf key fields ↔ f ∈ fields ∧ f.1 = key := by
  simp [fieldsOf]

/-- **Sorting keeps what is held for each key**, in its order. -/
theorem fieldsOf_mergeSort (key : String) (fields : List (String × Value)) :
    fieldsOf key (fields.mergeSort keyOrder) = fieldsOf key fields := by
  -- Fields of one key are sorted as they stand, so stability keeps them as they stand.
  have hsorted : SortedFields (fieldsOf key fields) := by
    refine List.pairwise_iff_forall_sublist.mpr fun {f g} hfg => ?_
    have hf := (mem_fieldsOf.mp (hfg.subset List.mem_cons_self)).2
    have hg := (mem_fieldsOf.mp (hfg.subset (List.mem_cons_of_mem _ List.mem_cons_self))).2
    simp [keyOrder, hf, hg]
  have hsublist : (fieldsOf key fields).Sublist (fields.mergeSort keyOrder) :=
    List.sublist_mergeSort keyOrder_trans keyOrder_total hsorted List.filter_sublist
  have hsame : fieldsOf key (fieldsOf key fields) = fieldsOf key fields := by
    simp [fieldsOf, List.filter_filter]
  have hkept : (fieldsOf key fields).Sublist (fieldsOf key (fields.mergeSort keyOrder)) :=
    hsame ▸ hsublist.filter _
  refine (hkept.eq_of_length ?_).symm
  exact ((List.mergeSort_perm fields keyOrder).filter _).length_eq.symm

theorem mem_of_fieldsOf_eq {f : String × Value}
    (hsame : ∀ key, fieldsOf key fields = fieldsOf key fields') (hf : f ∈ fields) :
    f ∈ fields' := by
  have hf' : f ∈ fieldsOf f.1 fields' := hsame f.1 ▸ mem_fieldsOf.mpr ⟨hf, rfl⟩
  exact (mem_fieldsOf.mp hf').1

/-- Two sorted lists of fields that hold the same begin alike: each first field comes before the
other, so they have one key, and are the first of that key. -/
theorem SortedFields.head_eq {f g : String × Value} (h : SortedFields (f :: fields))
    (h' : SortedFields (g :: fields'))
    (hsame : ∀ key, fieldsOf key (f :: fields) = fieldsOf key (g :: fields')) : f = g := by
  have hkey : f.1 = g.1 := by
    rcases List.mem_cons.mp (mem_of_fieldsOf_eq hsame List.mem_cons_self) with rfl | hf
    · rfl
    rcases List.mem_cons.mp (mem_of_fieldsOf_eq (fun key => (hsame key).symm) List.mem_cons_self)
      with rfl | hg
    · rfl
    have hfg := (List.pairwise_cons.mp h).1 g hg
    have hgf := (List.pairwise_cons.mp h').1 f hf
    simp only [keyOrder, decide_eq_true_eq] at hfg hgf
    exact String.le_antisymm hfg hgf
  have hfirst := hsame f.1
  rw [fieldsOf_cons_self, hkey, fieldsOf_cons_self] at hfirst
  exact (List.cons.inj hfirst).1

/-- **Sorted fields are determined** by what they hold for each key. -/
theorem SortedFields.eq_of_fieldsOf (h : SortedFields fields) (h' : SortedFields fields')
    (hsame : ∀ key, fieldsOf key fields = fieldsOf key fields') : fields = fields' := by
  induction fields generalizing fields' with
  | nil =>
    cases fields' with
    | nil => rfl
    | cons g rest' =>
      have hg := mem_of_fieldsOf_eq (fun key => (hsame key).symm) (@List.mem_cons_self _ g rest')
      exact absurd hg List.not_mem_nil
  | cons f rest ih =>
    cases fields' with
    | nil => exact absurd (mem_of_fieldsOf_eq hsame List.mem_cons_self) List.not_mem_nil
    | cons g rest' =>
      obtain rfl := h.head_eq h' hsame
      congr 1
      refine ih (List.pairwise_cons.mp h).2 (List.pairwise_cons.mp h').2 fun key => ?_
      have hrest := hsame key
      simp only [fieldsOf, List.filter_cons] at hrest ⊢
      split at hrest
      · exact (List.cons.inj hrest).2
      · exact hrest

/-- **Sorting forgets the order of different keys.** -/
theorem mergeSort_eq_of_fieldsOf (h : ∀ key, fieldsOf key fields = fieldsOf key fields') :
    fields.mergeSort keyOrder = fields'.mergeSort keyOrder := by
  refine (sortedFields_mergeSort fields).eq_of_fieldsOf (sortedFields_mergeSort fields')
    fun key => ?_
  rw [fieldsOf_mergeSort, fieldsOf_mergeSort, h]

theorem mergeSort_swap (before : List (String × Value)) {f g : String × Value}
    (after : List (String × Value)) (hne : f.1 ≠ g.1) :
    (before ++ f :: g :: after).mergeSort keyOrder =
      (before ++ g :: f :: after).mergeSort keyOrder := by
  refine mergeSort_eq_of_fieldsOf fun key => ?_
  simp only [fieldsOf, List.filter_append, List.filter_cons]
  by_cases hf : f.1 = key
  · have hg : ¬g.1 = key := fun heq => hne (hf.trans heq.symm)
    simp [hf, hg]
  · simp [hf]

/-- **Looking a key up** in a keyed list is looking it up in what is held for the key. -/
theorem Keyed.find?_eq_fieldsOf (fields : List (String × Value)) (key : String) :
    Keyed.find? fields key = (fieldsOf key fields).head?.map Prod.snd := by
  induction fields with
  | nil => rfl
  | cons f fields ih =>
    obtain ⟨name, v⟩ := f
    rw [find?_cons, fieldsOf, List.filter_cons]
    by_cases hkey : key = name
    · simp [hkey]
    · have hname : ¬name = key := fun heq => hkey heq.symm
      simpa [hkey, hname, fieldsOf] using ih

theorem Keyed.find?_mergeSort (fields : List (String × Value)) (key : String) :
    Keyed.find? (fields.mergeSort keyOrder) key = Keyed.find? fields key := by
  rw [find?_eq_fieldsOf, find?_eq_fieldsOf, fieldsOf_mergeSort]

namespace Value

/-! ### Canonical forms -/

theorem canonicalItems_eq_map (items : List Value) :
    canonicalItems items = items.map canonical := by
  induction items with
  | nil => rfl
  | cons v items ih => rw [canonicalItems, ih, List.map_cons]

theorem canonicalFields_eq_map (fields : List (String × Value)) :
    canonicalFields fields = fields.map fun f => (f.1, f.2.canonical) := by
  induction fields with
  | nil => rfl
  | cons f fields ih => rw [canonicalFields, ih, List.map_cons]

theorem find?_canonicalFields (fields : List (String × Value)) (key : String) :
    Keyed.find? (canonicalFields fields) key = (Keyed.find? fields key).map canonical := by
  induction fields with
  | nil => rfl
  | cons f fields ih =>
    obtain ⟨name, v⟩ := f
    rw [canonicalFields, Keyed.find?_cons, Keyed.find?_cons, ih]
    split_ifs <;> rfl

/-- **A field of the canonical form** of a record is the canonical form of the field. -/
theorem field_canonical (fields : List (String × Value)) (key : String) :
    (canonical (.record fields)).field key = ((Value.record fields).field key).canonical := by
  rw [canonical, field, field, Keyed.find?_mergeSort, find?_canonicalFields]
  cases Keyed.find? fields key <;> rfl

mutual

/-- **The canonical form is canonical.** -/
theorem canonical_canonical : ∀ v : Value, v.canonical.canonical = v.canonical
  | .null | .bool _ | .int _ | .float _ | .text _ => rfl
  | .decimal _ | .temporal _ => by simp [canonical, canonicalFields]
  | .list items => by
    rw [canonical, canonical, canonicalItems_eq_map, List.map_congr_left fun v hv => ?_,
      List.map_id']
    rw [canonicalItems_eq_map] at hv
    obtain ⟨u, hu, rfl⟩ := List.mem_map.mp hv
    exact canonical_canonical_of_mem items u hu
  | .record fields => by
    have hsame : canonicalFields ((canonicalFields fields).mergeSort keyOrder) =
        (canonicalFields fields).mergeSort keyOrder := by
      rw [canonicalFields_eq_map]
      refine (List.map_congr_left fun f hf => ?_).trans (List.map_id' _)
      rw [(List.mergeSort_perm _ _).mem_iff, canonicalFields_eq_map] at hf
      obtain ⟨g, hg, rfl⟩ := List.mem_map.mp hf
      rw [canonical_canonical_of_mem_fields fields g hg]
    rw [canonical, canonical, hsame, List.mergeSort_of_pairwise (sortedFields_mergeSort _)]

/-- The canonical forms of items are canonical. -/
theorem canonical_canonical_of_mem :
    ∀ (items : List Value), ∀ v ∈ items, v.canonical.canonical = v.canonical
  | [], _, h => absurd h List.not_mem_nil
  | first :: rest, v, h => by
    rcases List.mem_cons.mp h with heq | hrest
    · rw [heq]
      exact canonical_canonical first
    · exact canonical_canonical_of_mem rest v hrest

/-- The canonical forms of the values of fields are canonical. -/
theorem canonical_canonical_of_mem_fields :
    ∀ (fields : List (String × Value)), ∀ f ∈ fields, f.2.canonical.canonical = f.2.canonical
  | [], _, h => absurd h List.not_mem_nil
  | (key, v) :: rest, f, h => by
    rcases List.mem_cons.mp h with heq | hrest
    · rw [heq]
      exact canonical_canonical v
    · exact canonical_canonical_of_mem_fields rest f hrest

end

/-- **Values that differ in the order of keys** have one canonical form. -/
theorem Reordered.canonical_eq {v w : Value} (h : Reordered v w) : v.canonical = w.canonical := by
  induction h with
  | refl v => rfl
  | trans _ _ ih ih' => exact ih.trans ih'
  | swap before f g after hne =>
    rw [canonical, canonical, canonicalFields_eq_map, canonicalFields_eq_map]
    simp only [List.map_append, List.map_cons]
    rw [mergeSort_swap _ _ (by exact hne)]
  | item before after _ ih => simp [canonical, canonicalItems_eq_map, ih]
  | value before key after _ ih => simp [canonical, canonicalFields_eq_map, ih]

/-! ### The values of documents -/

/-- **A value of a document**: it holds neither decimals nor temporal values, and no record in it
gives a key twice. -/
inductive IsJson : Value → Prop
  /-- Nothing. -/
  | null : IsJson .null
  /-- A truth value. -/
  | bool (b : Bool) : IsJson (.bool b)
  /-- A whole number. -/
  | int (n : Int) : IsJson (.int n)
  /-- A double. -/
  | float (x : Number.Binary64) : IsJson (.float x)
  /-- A text. -/
  | text (s : String) : IsJson (.text s)
  /-- A list of such values. -/
  | list {items : List Value} : (∀ v ∈ items, IsJson v) → IsJson (.list items)
  /-- A record of such values. -/
  | record {fields : List (String × Value)} : (Keyed.keys fields).Nodup →
      (∀ f ∈ fields, IsJson f.2) → IsJson (.record fields)

/-- Lists with one image are related item by item. -/
theorem forall₂_of_map_eq {α : Type} {f : α → α} {R : α → α → Prop} {xs ys : List α}
    (h : xs.map f = ys.map f) (hR : ∀ x ∈ xs, ∀ y ∈ ys, f x = f y → R x y) :
    List.Forall₂ R xs ys :=
  forall₂_imp_mem (map_eq_map_iff_forall₂.mp h) hR

/-- Lists whose images are the same in some order are related item by item in some order. -/
theorem exists_perm_of_map_perm {α : Type} {f : α → α} {xs ys : List α}
    (h : (xs.map f).Perm (ys.map f)) : ∃ zs : List α, xs.map f = zs.map f ∧ zs.Perm ys := by
  have himage : List.Forall₂ (fun x y => x = f y) (ys.map f) ys := by
    rw [List.forall₂_map_left_iff]
    exact List.forall₂_same.mpr fun _ _ => rfl
  obtain ⟨zs, hzs, hperm⟩ := List.perm_comp_forall₂ h himage
  refine ⟨zs, ?_, hperm⟩
  have heq : List.Forall₂ Eq (xs.map f) (zs.map f) := List.forall₂_map_right_iff.mpr hzs
  rwa [List.forall₂_eq_eq_eq] at heq

/-- **The order of keys is all that the canonical form forgets** of a value of a document. -/
theorem IsJson.reordered {v w : Value} (hv : IsJson v) (hw : IsJson w)
    (h : v.canonical = w.canonical) : Reordered v w := by
  induction hv generalizing w with
  | null | bool | int | float | text =>
    cases hw with
    | null | bool | int | float | text => exact .of_eq h
    | list | record => exact nomatch h
  | @list items hitems ih =>
    cases hw with
    | null | bool | int | float | text | record => exact nomatch h
    | @list items' hitems' =>
      have hmap := Value.list.inj h
      rw [canonicalItems_eq_map, canonicalItems_eq_map] at hmap
      exact .of_items (forall₂_of_map_eq hmap fun v hv w hw heq => ih v hv (hitems' w hw) heq)
  | @record fields hkeys hfields ih =>
    cases hw with
    | null | bool | int | float | text | list => exact nomatch h
    | @record fields' hkeys' hfields' =>
      have hsorted := Value.record.inj h
      have hperm : (canonicalFields fields).Perm (canonicalFields fields') :=
        (List.mergeSort_perm _ keyOrder).symm.trans
          (hsorted ▸ List.mergeSort_perm (canonicalFields fields') keyOrder)
      rw [canonicalFields_eq_map, canonicalFields_eq_map] at hperm
      -- First the values change, each in its place, and then the fields change places.
      obtain ⟨fields'', hmap, hperm⟩ := exists_perm_of_map_perm hperm
      have hkeys'' : (Keyed.keys fields'').Nodup := (hperm.map Prod.fst).nodup_iff.mpr hkeys'
      refine .trans (.of_fields (forall₂_of_map_eq hmap fun f hf g hg heq => ?_))
        (.of_perm hperm hkeys'')
      obtain ⟨hkey, hvalue⟩ := Prod.mk.inj heq
      exact ⟨hkey, ih f hf (hfields' g (hperm.mem_iff.mp hg)) hvalue⟩

/-- **Values of documents have one canonical form** exactly if they differ in the order of keys
alone. -/
theorem IsJson.canonical_eq_iff {v w : Value} (hv : IsJson v) (hw : IsJson w) :
    v.canonical = w.canonical ↔ Reordered v w :=
  ⟨hv.reordered hw, Reordered.canonical_eq⟩

end Value

end RuleFlow
