import RuleFlow.Proofs.Alike
import RuleFlow.Proofs.Value.Reordered

/-!
# Values of one shape

What is not to be seen in a value is replaced where it stands, and everything around it stays: lists
keep their lengths and records their keys, in their order.

* `RuleFlow.Value.Within`: one value stands in another, at any depth.
* `RuleFlow.Value.OneShape`: two values are of one shape, their scalars are related, and what stands
  behind hidden keys is left open.
* `RuleFlow.Value.OneShape.list_iff` and `RuleFlow.Value.OneShape.record_iff` take the relation
  apart and put it together.
* `RuleFlow.Value.induct` is induction on values.
-/

namespace RuleFlow

namespace Value

variable {u v w : Value} {items items' : List Value} {fields fields' : List (String × Value)}

/-! ### Induction -/

/-- The items of a list and the fields of a record are smaller than the whole. -/
theorem sizeOf_lt_of_mem (h : v ∈ items) : sizeOf v < sizeOf (Value.list items) := by
  have hitem := List.sizeOf_lt_of_mem h
  rw [list.sizeOf_spec]
  omega

theorem sizeOf_lt_of_mem_fields {key : String} (h : (key, v) ∈ fields) :
    sizeOf v < sizeOf (Value.record fields) := by
  have hfield := List.sizeOf_lt_of_mem h
  rw [Prod.mk.sizeOf_spec] at hfield
  rw [record.sizeOf_spec]
  omega

/-- **Induction on values**: what holds of scalars, of a list if it holds of its items, and of a
record if it holds of the values of its fields, holds of all values. -/
@[elab_as_elim]
theorem induct {motive : Value → Prop} (scalar : ∀ v, v.isScalar = true → motive v)
    (list : ∀ items, (∀ v ∈ items, motive v) → motive (.list items))
    (record : ∀ fields, (∀ key v, (key, v) ∈ fields → motive v) → motive (.record fields))
    (v : Value) : motive v := by
  cases v with
  | list items => exact list items fun v _ => induct scalar list record v
  | record fields => exact record fields fun key v _ => induct scalar list record v
  | _ => exact scalar _ rfl
termination_by sizeOf v
decreasing_by
  · exact sizeOf_lt_of_mem ‹_›
  · exact sizeOf_lt_of_mem_fields ‹_›

/-! ### Values in values -/

/-- **A value stands in another**, at any depth. -/
inductive Within (u : Value) : Value → Prop
  /-- It is the other. -/
  | here : Within u u
  /-- It stands in an item of a list. -/
  | item {items : List Value} {v : Value} : v ∈ items → Within u v → Within u (.list items)
  /-- It stands in the value of a field. -/
  | field {fields : List (String × Value)} {key : String} {v : Value} :
      (key, v) ∈ fields → Within u v → Within u (.record fields)

theorem within_iff_of_isScalar (hv : v.isScalar = true) : Within u v ↔ u = v := by
  constructor
  · intro h
    cases h with
    | here => rfl
    | item => exact nomatch hv
    | field => exact nomatch hv
  · rintro rfl
    exact .here

theorem within_list_iff :
    Within u (.list items) ↔ u = .list items ∨ ∃ v ∈ items, Within u v := by
  constructor
  · intro h
    cases h with
    | here => exact .inl rfl
    | item hmem hwithin => exact .inr ⟨_, hmem, hwithin⟩
  · rintro (rfl | ⟨v, hmem, hwithin⟩)
    · exact .here
    · exact .item hmem hwithin

theorem within_record_iff :
    Within u (.record fields) ↔ u = .record fields ∨ ∃ field ∈ fields, Within u field.2 := by
  constructor
  · intro h
    cases h with
    | here => exact .inl rfl
    | field hmem hwithin => exact .inr ⟨_, hmem, hwithin⟩
  · rintro (rfl | ⟨field, hmem, hwithin⟩)
    · exact .here
    · exact .field hmem hwithin

/-! ### Values of one shape -/

/-- **Two values are of one shape**: scalars are related, lists are as long and their items of one
shape, and records have the same keys in the same order and values of one shape, unless their keys
are hidden. -/
inductive OneShape (hidden : String → Prop) (same : Value → Value → Prop) : Value → Value → Prop
  /-- Scalars are related. -/
  | scalar {v w : Value} : v.isScalar = true → same v w → OneShape hidden same v w
  /-- Lists are as long, and item by item of one shape. -/
  | list {items items' : List Value} : items.length = items'.length →
      (∀ v w, (v, w) ∈ items.zip items' → OneShape hidden same v w) →
      OneShape hidden same (.list items) (.list items')
  /-- Records have the same keys, and values of one shape behind those that are not hidden. -/
  | record {fields fields' : List (String × Value)} :
      fields.map Prod.fst = fields'.map Prod.fst →
      (∀ key v w, ((key, v), (key, w)) ∈ fields.zip fields' → ¬hidden key →
        OneShape hidden same v w) →
      OneShape hidden same (.record fields) (.record fields')

namespace OneShape

variable {hidden : String → Prop} {same : Value → Value → Prop}

theorem scalar_iff (hv : v.isScalar = true) : OneShape hidden same v w ↔ same v w := by
  constructor
  · intro h
    cases h with
    | scalar _ hsame => exact hsame
    | list => exact nomatch hv
    | record => exact nomatch hv
  · exact .scalar hv

/-- **A list** is of one shape with lists of items of one shape. -/
theorem list_iff : OneShape hidden same (.list items) w ↔
    ∃ items', w = .list items' ∧ List.Forall₂ (OneShape hidden same) items items' := by
  constructor
  · intro h
    cases h with
    | scalar hv => exact nomatch hv
    | list hlength hitems =>
      exact ⟨_, rfl, List.forall₂_iff_zip.mpr ⟨hlength, fun h => hitems _ _ h⟩⟩
  · rintro ⟨items', rfl, hitems⟩
    obtain ⟨hlength, hzip⟩ := List.forall₂_iff_zip.mp hitems
    exact .list hlength fun _ _ h => hzip h

/-- **A record** is of one shape with records of the same keys, with values of one shape behind
those that are not hidden. -/
theorem record_iff : OneShape hidden same (.record fields) w ↔
    ∃ fields', w = .record fields' ∧
      List.Forall₂ (fun f g => f.1 = g.1 ∧ (¬hidden f.1 → OneShape hidden same f.2 g.2))
        fields fields' := by
  constructor
  · intro h
    cases h with
    | scalar hv => exact nomatch hv
    | @record _ fields' hkeys hfields =>
      refine ⟨fields', rfl, List.forall₂_iff_zip.mpr ⟨?_, ?_⟩⟩
      · simpa using congrArg List.length hkeys
      · rintro ⟨key, v⟩ ⟨key', w⟩ hmem
        obtain rfl : key = key' := List.forall₂_zip (map_eq_map_iff_forall₂.mp hkeys) hmem
        exact ⟨rfl, hfields key v w hmem⟩
  · rintro ⟨fields', rfl, hfields⟩
    obtain ⟨-, hzip⟩ := List.forall₂_iff_zip.mp hfields
    refine .record ?_ fun key v w hmem => (hzip hmem).2
    exact map_eq_map_iff_forall₂.mpr (hfields.imp fun _ _ h => h.1)

/-- A value is of one shape with itself. -/
theorem refl (hsame : ∀ v, same v v) (v : Value) : OneShape hidden same v v := by
  induction v using Value.induct with
  | scalar v hv => exact .scalar hv (hsame v)
  | list items ih => exact list_iff.mpr ⟨items, rfl, List.forall₂_same.mpr ih⟩
  | record fields ih =>
    refine record_iff.mpr ⟨fields, rfl, List.forall₂_same.mpr fun field hfield => ?_⟩
    exact ⟨rfl, fun _ => ih field.1 field.2 hfield⟩

end OneShape

end Value

end RuleFlow
