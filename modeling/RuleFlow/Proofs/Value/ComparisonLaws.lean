import RuleFlow.Proofs.Rule.ConditionTypes
import RuleFlow.Proofs.Value.Equality

/-!
# The laws of comparisons

The operators of a comparison reach its values on different ways: all orders align two temporal
values, equality does so under the type of dates only, and before either of them the sides are
converted to a declared type or to one that is inferred. This file shows that the operators fit
together all the same.

## One conversion for all operators

The sides are brought to a type before the operator is looked at (`RuleFlow.Value.brought`), and it
does not matter which of them comes first. What is left are laws of converted values.

* `RuleFlow.Value.endAlike_compare_converse`: an order is the converse order from the other side.
* `RuleFlow.Value.exists_order_of_compare_lt`: two sides that one order answers for have an order,
  and all operators go by it.
* `RuleFlow.Value.endAlike_compare_eq_iff` tells when equality is the same from either side. It is
  not if, from one side only, it comes to a number that signals.
* `RuleFlow.Value.compare_lawful` puts them together.
-/

namespace RuleFlow

open Number Calendar

/-- **Troubles of one kind**: refusals with one code, or faults of one class. -/
inductive Trouble.SameKind : Trouble → Trouble → Prop
  /-- Two refusals with one code. -/
  | refused {code : Int} {message message' : String} :
      SameKind (.refused code message) (.refused code message')
  /-- Two inconsistent states. -/
  | internal {message message' : String} : SameKind (.internal message) (.internal message')
  /-- Two runs of too many steps. -/
  | stepLimit {message message' : String} : SameKind (.stepLimit message) (.stepLimit message')
  /-- Two faults of one class. -/
  | fault {f f' : Fault} : f.className = f'.className → SameKind (.fault f) (.fault f')

/-- **Two comparisons have one answer**: the same truth value, or troubles of one kind. -/
abbrev OneAnswer (x y : Except Trouble Bool) : Prop :=
  EndAlike x y Eq Trouble.SameKind

/-- **The converse operator**, which says of two sides what the operator says of them the other way
round. -/
def Operator.converse : Operator → Operator
  | .lt => .gt
  | .lte => .gte
  | .gt => .lt
  | .gte => .lte
  | op => op

theorem Operator.isOrdering_converse (op : Operator) : op.converse.isOrdering = op.isOrdering := by
  cases op <;> rfl

namespace Value

variable {a b l r v w : Value} {ta tb t : DataType} {op : Operator} {o : Ordering}
  {trouble trouble' : Trouble} {target : DeclaredType}

/-! ### What the sides are brought to -/

/-- The type that is declared for a comparison, if it is not `any`. -/
def declaredType (leftType rightType : DataType) : DataType :=
  if leftType = .any then rightType else leftType

theorem declaredType_eq_any_iff : declaredType ta tb = .any ↔ ta = .any ∧ tb = .any := by
  rw [declaredType]
  split_ifs with hta
  · exact (and_iff_right hta).symm
  · exact iff_of_false hta fun h => hta h.1

theorem declaredType_comm (hwith : ta.GoesWith tb) : declaredType ta tb = declaredType tb ta := by
  rw [declaredType, declaredType]
  rcases hwith with rfl | rfl | rfl
  · rw [if_pos rfl]
    split_ifs with hany
    · exact hany
    · rfl
  · rw [if_pos rfl]
    split_ifs with hany
    · exact hany.symm
    · rfl
  · rfl

/-- **What the sides of a comparison are brought to**: a type, and two values for it. What a
conversion runs into is known under a type that is inferred, and is not told under a declared
one. -/
def brought (left : Value) (leftType : DataType) (right : Value) (rightType : DataType) :
    Except (Option Fault) (DataType × Value × Value) :=
  let declared := declaredType leftType rightType
  if declared = .any then
    if inferType left right = .number then
      ((coerceBoth (.known .number) left right).mapError some).map (.number, ·)
    else .ok (inferType left right, left, right)
  else ((coerceBoth (.known declared) left right).mapError fun _ => none).map (declared, ·)

/-- **A comparison is one of what its sides are brought to.** -/
theorem compare_eq_brought (op : Operator) (a : Value) (ta : DataType) (b : Value)
    (tb : DataType) :
    compare op a ta b tb =
      match brought a ta b tb with
      | .ok (t, l, r) => compareConverted (mismatch op a b) op (.known t) l r
      | .error none => .error (mismatch op a b)
      | .error (some f) => .error (.fault f) := by
  rw [brought]
  split_ifs with hdeclared hinferred
  · obtain ⟨rfl, rfl⟩ := declaredType_eq_any_iff.mp hdeclared
    rw [compare_any_of_number hinferred]
    cases coerceBoth (.known .number) a b <;> rfl
  · obtain ⟨rfl, rfl⟩ := declaredType_eq_any_iff.mp hdeclared
    exact compare_any hinferred
  · rw [compare_of_declared (targetType_known ta tb) hdeclared, ← declaredType]
    cases coerceBoth (.known (declaredType ta tb)) a b <;> rfl

theorem inferType_comm (v w : Value) : inferType v w = inferType w v := by
  rw [inferType, inferType, Bool.and_comm, Bool.and_comm (x := v.isTemporal),
    Bool.and_comm (x := v.isText)]

/-- **Converting both sides**, in either order. -/
theorem endAlike_coerceBoth (target : DeclaredType) (a b : Value) :
    EndAlike (coerceBoth target a b) (coerceBoth target b a) (fun both both' => both' = both.swap)
      fun f f' => f.className = f'.className := by
  have hswap : ∀ {a b both}, coerceBoth target a b = .ok both →
      coerceBoth target b a = .ok both.swap := fun h =>
    coerceBoth_eq_ok.mpr (coerceBoth_eq_ok.mp h).symm
  cases hboth : coerceBoth target a b with
  | ok both =>
    rw [hswap hboth]
    rfl
  | error f =>
    cases hboth' : coerceBoth target b a with
    | ok both => exact nomatch hboth.symm.trans (hswap hboth')
    | error f' =>
      have hvalue : ∀ f : Fault, f.isValueFault = true → f.className = "ValueError" :=
        fun f hf => by simpa [Fault.isValueFault] using hf
      have hf := hvalue f ((ends_coerceBoth target a b).of_error hboth)
      have hf' := hvalue f' ((ends_coerceBoth target b a).of_error hboth')
      exact hf.trans hf'.symm

/-- **It does not matter which side comes first**, if their types go together. -/
theorem endAlike_brought (hwith : ta.GoesWith tb) (a b : Value) :
    EndAlike (brought a ta b tb) (brought b tb a ta) (fun x y => y = (x.1, x.2.swap))
      fun e e' => e.map Fault.className = e'.map Fault.className := by
  rw [brought, brought, declaredType_comm hwith, inferType_comm a b]
  split_ifs
  · have hends := endAlike_coerceBoth (.known .number) a b
    refine (hends.mapError fun _ _ hf => ?_).map ?_
    · exact congrArg some hf
    · rintro both both' rfl
      rfl
  · rfl
  · have hends := endAlike_coerceBoth (.known (declaredType tb ta)) a b
    refine (hends.mapError fun _ _ _ => ?_).map ?_
    · rfl
    · rintro both both' rfl
      rfl

/-- **What two values are for a comparison** under the types of its sides. -/
structure Ready (a : Value) (ta : DataType) (b : Value) (tb t : DataType) (l r : Value) : Prop where
  /-- The left value is nothing or of the type. -/
  left : l.isNull = true ∨ l.OfType t
  /-- The right value is nothing or of the type. -/
  right : r.isNull = true ∨ r.OfType t
  /-- The values are plain, or else they are the sides as they were. -/
  plain : l.IsPlain ∧ r.IsPlain ∨ ta = .any ∧ tb = .any ∧ l = a ∧ r = b

/-- What is converted to a type is nothing or of the type. -/
theorem isNull_or_ofType_of_coerce (h : v.coerce t = .ok w) : w.isNull = true ∨ w.OfType t := by
  by_cases hnull : v.isNull = true
  · rw [coerce.eq_def, if_pos hnull] at h
    exact .inl (Except.ok.inj h ▸ hnull)
  · exact .inr (ofType_of_coerce hnull h)

/-- Converted sides are ready, whatever their declared types. -/
theorem ready_of_coerceBoth (ht : t ≠ .any) {both : Value × Value}
    (h : coerceBoth (.known t) a b = .ok both) : Ready a ta b tb t both.1 both.2 := by
  obtain ⟨ha, hb⟩ := coerceBoth_eq_ok.mp h
  exact ⟨isNull_or_ofType_of_coerce ha, isNull_or_ofType_of_coerce hb,
    .inl (isPlain_of_coerceBoth ht h)⟩

/-- The type that is inferred is one of both values. -/
theorem ofType_inferType (h : inferType v w ≠ .number) :
    v.OfType (inferType v w) ∧ w.OfType (inferType v w) := by
  have hdate : ∀ v : Value, v.isTemporal = true → v.OfType .date := by
    intro v hv
    cases v with
    | temporal t => exact ⟨t, rfl⟩
    | _ => exact nomatch hv
  have hstring : ∀ v : Value, v.isText = true → v.OfType .string := by
    intro v hv
    cases v with
    | text s => exact ⟨s, rfl⟩
    | _ => exact nomatch hv
  rw [inferType] at h ⊢
  split_ifs at h ⊢ with hnumber htemporal htext
  · exact absurd rfl h
  · obtain ⟨hv, hw⟩ := Bool.and_eq_true_iff.mp htemporal
    exact ⟨hdate v hv, hdate w hw⟩
  · obtain ⟨hv, hw⟩ := Bool.and_eq_true_iff.mp htext
    exact ⟨hstring v hv, hstring w hw⟩
  · exact ⟨trivial, trivial⟩

/-- **The sides are brought to values that are ready.** -/
theorem ready_of_brought (h : brought a ta b tb = .ok (t, l, r)) : Ready a ta b tb t l r := by
  have hconverted : ∀ {t'} {bad : Fault → Option Fault}, t' ≠ .any →
      ((coerceBoth (.known t') a b).mapError bad).map (t', ·) = .ok (t, l, r) →
        Ready a ta b tb t l r := by
    intro t' bad ht' hok
    obtain ⟨both, hboth, heq⟩ := map_eq_ok.mp hok
    cases hcoerce : coerceBoth (.known t') a b with
    | error f => exact nomatch hcoerce ▸ hboth
    | ok both' =>
      rw [hcoerce] at hboth
      obtain rfl := Except.ok.inj hboth
      obtain ⟨rfl, rfl⟩ := Prod.mk.inj heq
      exact ready_of_coerceBoth ht' hcoerce
  rw [brought] at h
  split_ifs at h with hdeclared hinferred
  · exact hconverted (by decide) h
  · obtain ⟨rfl, rfl⟩ := declaredType_eq_any_iff.mp hdeclared
    obtain ⟨rfl, rfl, rfl⟩ : inferType a b = t ∧ a = l ∧ b = r := by simpa using h
    obtain ⟨ha, hb⟩ := ofType_inferType hinferred
    exact ⟨.inr ha, .inr hb, .inr ⟨rfl, rfl, rfl, rfl⟩⟩
  · exact hconverted hdeclared h

/-! ### Orders -/

theorem order?_align_swap (l r : Value) :
    order? (align r l).1 (align r l).2 =
      (order? (align l r).1 (align l r).2).map Ordering.swap := by
  cases l with
  | decimal d =>
    cases r with
    | decimal e => exact Decimal.compare?_swap d e
    | _ => rfl
  | temporal t =>
    cases r with
    | temporal u =>
      simp only [align, Temporal.align_swap t u]
      exact Temporal.compare?_swap ..
    | _ => rfl
  | _ => cases r <;> rfl

theorem orderHolds_converse (hop : op.isOrdering = true) (o : Ordering) :
    orderHolds op.converse o.swap = orderHolds op o := by
  cases op with
  | lt | lte | gt | gte => cases o <;> rfl
  | _ => cases hop

/-- **An order of converted values** is the converse order of them from the other side. -/
theorem endAlike_compareConverted_converse (hop : op.isOrdering = true)
    (hkind : trouble.SameKind trouble') (target : DeclaredType) (l r : Value) :
    OneAnswer (compareConverted trouble op target l r)
      (compareConverted trouble' op.converse target r l) := by
  rw [compareConverted_of_isOrdering hop,
    compareConverted_of_isOrdering (op.isOrdering_converse.trans hop)]
  by_cases htype : (target = .known .number ∨ target = .known .date) ∧ !l.isNull ∧ !r.isNull
  · rw [if_pos htype, if_pos ⟨htype.1, htype.2.symm⟩, order?_align_swap l r]
    cases order? (align l r).1 (align l r).2 with
    | none => exact hkind
    | some o => exact (orderHolds_converse hop o).symm
  · rw [if_neg htype, if_neg fun h => htype ⟨h.1, h.2.symm⟩]
    exact hkind

theorem sameKind_mismatch (op op' : Operator) (a b c d : Value) :
    (mismatch op a b).SameKind (mismatch op' c d) :=
  .refused

/-- **One operator from one side, another from the other**: what holds of the values that the sides
are brought to holds of the comparison. -/
theorem endAlike_compare {op' : Operator} (hwith : ta.GoesWith tb)
    (h : ∀ t l r, Ready a ta b tb t l r →
      OneAnswer (compareConverted (mismatch op a b) op (.known t) l r)
        (compareConverted (mismatch op' b a) op' (.known t) r l)) :
    OneAnswer (compare op a ta b tb) (compare op' b tb a ta) := by
  rw [compare_eq_brought, compare_eq_brought]
  obtain ⟨⟨t, l, r⟩, y, hx, hy, rfl⟩ | ⟨e, e', hx, hy, hkind⟩ :=
    (endAlike_brought hwith a b).outcome
  · rw [hx, hy]
    exact h t l r (ready_of_brought hx)
  · rw [hx, hy]
    cases e with
    | none =>
      cases e' with
      | none => exact sameKind_mismatch ..
      | some f' => exact nomatch hkind
    | some f =>
      cases e' with
      | none => exact nomatch hkind
      | some f' => exact .fault (Option.some.inj hkind)

/-- **An order is the converse order from the other side.** -/
theorem endAlike_compare_converse (hwith : ta.GoesWith tb) (hop : op.isOrdering = true)
    (a b : Value) : OneAnswer (compare op a ta b tb) (compare op.converse b tb a ta) :=
  endAlike_compare hwith fun _ _ _ _ =>
    endAlike_compareConverted_converse hop (sameKind_mismatch ..) ..

/-! ### What an order decides -/

/-- **Equality of two values that have an order**, of numbers as of dates. -/
theorem compareConverted_eq_of_order (ht : t = .number ∨ t = .date) (hl : l.OfType t)
    (hr : r.OfType t) (ho : order? (align l r).1 (align l r).2 = some o) :
    compareConverted trouble .eq (.known t) l r = .ok (o == .eq) := by
  rcases ht with rfl | rfl
  · obtain ⟨d, rfl⟩ := hl
    obtain ⟨e, rfl⟩ := hr
    have hsame : same (.decimal d) (.decimal e) = .ok (o == .eq) := sameNumber_of_compare? ho
    simp [compareConverted, hsame]
  · obtain ⟨t, rfl⟩ := hl
    obtain ⟨u, rfl⟩ := hr
    have hsame : same (align (.temporal t) (.temporal u)).1 (align (.temporal t) (.temporal u)).2 =
        .ok (o == .eq) := congrArg Except.ok (Temporal.same_eq_of_compare? ho)
    simp [compareConverted, hsame]

/-- **Two sides that one order answers for have an order**, and all orders and equality go by
it. -/
theorem exists_order_of_compare_lt {less : Bool} (h : compare .lt a ta b tb = .ok less) :
    ∃ o, (∀ op : Operator, op.isOrdering = true → compare op a ta b tb = .ok (orderHolds op o)) ∧
      compare .eq a ta b tb = .ok (o == .eq) := by
  simp only [compare_eq_brought] at h ⊢
  cases hbrought : brought a ta b tb with
  | error e => cases e <;> exact nomatch hbrought ▸ h
  | ok x =>
    obtain ⟨t, l, r⟩ := x
    have hready := ready_of_brought hbrought
    rw [hbrought] at h
    dsimp only at h ⊢
    rw [compareConverted_of_isOrdering rfl] at h
    split_ifs at h with htype
    cases horder : order? (align l r).1 (align l r).2 with
    | none => exact nomatch horder ▸ h
    | some o =>
      refine ⟨o, fun op hop => ?_, ?_⟩
      · rw [compareConverted_of_isOrdering hop, if_pos htype, horder]
      · obtain ⟨hknown, hl, hr⟩ := htype
        have ht : t = .number ∨ t = .date := by simpa using hknown
        have hleft : l.OfType t := hready.left.resolve_left (by simpa using hl)
        have hright : r.OfType t := hready.right.resolve_left (by simpa using hr)
        exact compareConverted_eq_of_order ht hleft hright horder

/-! ### Equality -/

/-- Plain values are well keyed. -/
theorem IsPlain.wellKeyed (hv : v.IsPlain) : v.WellKeyed := by
  refine .scalar ?_
  cases v with
  | list items => exact hv.elim
  | record fields => exact hv.elim
  | _ => rfl

/-- **Equality of converted values** is the same from either side, if it fails from both or from
none. -/
theorem endAlike_compareConverted_eq (hl : l.WellKeyed) (hr : r.WellKeyed)
    (hclash : Clashes l r ↔ Clashes r l) (trouble trouble' : Trouble) (target : DeclaredType) :
    OneAnswer (compareConverted trouble .eq target l r)
      (compareConverted trouble' .eq target r l) := by
  have hsame : same l r = same r l := (hl.same_comm_iff hr).mpr hclash
  have haligned : same (align l r).1 (align l r).2 = same (align r l).1 (align r l).2 := by
    cases l with
    | temporal t =>
      cases r with
      | temporal u =>
        simp only [align, Temporal.align_swap t u]
        exact congrArg Except.ok (Temporal.same_comm ..)
      | _ => exact hsame
    | _ => cases r <;> exact hsame
  simp only [compareConverted]
  by_cases hdate : target = .known .date
  · rw [if_pos hdate, if_pos hdate, haligned]
    cases same (align r l).1 (align r l).2 with
    | ok equal => rfl
    | error f => exact .fault rfl
  · rw [if_neg hdate, if_neg hdate, hsame]
    cases same r l with
    | ok equal => rfl
    | error f => exact .fault rfl

/-- Two numbers clash from both sides or from none. -/
theorem clashes_comm_of_isNumber (ha : a.isNumber = true) (hb : b.isNumber = true) :
    Clashes a b ↔ Clashes b a := by
  have hswap : ∀ {a b : Value}, a.isNumber = true → Clashes a b → Clashes b a := by
    intro a b ha h
    cases h with
    | number hd he hsignals => exact .number he hd hsignals.symm
    | item _ _ _ => exact nomatch ha
    | field _ _ _ _ => exact nomatch ha
  exact ⟨hswap ha, hswap hb⟩

/-- **Equality of two sides of no declared type** fails where they clash, unless they are two
numbers. -/
theorem exists_compare_eq_error_iff (h : inferType a b ≠ .number) :
    (∃ e, compare .eq a .any b .any = .error e) ↔ Clashes a b := by
  constructor
  · rintro ⟨e, he⟩
    by_contra hclash
    rw [compare_any h] at he
    obtain ⟨equal, hequal⟩ := exists_compareConverted_of_not_clashes (.inl rfl) hclash
      (mismatch .eq a b) (.known (inferType a b))
    exact nomatch hequal.symm.trans he
  · intro hclash
    obtain ⟨f, hf, -⟩ := compare_of_unguarded (.clash (.inl rfl) hclash)
    exact ⟨_, hf⟩

/-- **Equality is the same from either side** if and only if two sides of no declared type clash
from both sides or from none. -/
theorem endAlike_compare_eq_iff (hwith : ta.GoesWith tb) (ha : a.WellKeyed) (hb : b.WellKeyed) :
    OneAnswer (compare .eq a ta b tb) (compare .eq b tb a ta) ↔
      (ta = .any → tb = .any → (Clashes a b ↔ Clashes b a)) := by
  constructor
  · rintro h rfl rfl
    by_cases hnumber : inferType a b = .number
    · obtain ⟨ha, hb⟩ := inferType_eq_number_iff.mp hnumber
      exact clashes_comm_of_isNumber ha hb
    · rw [← exists_compare_eq_error_iff hnumber,
        ← exists_compare_eq_error_iff (inferType_comm a b ▸ hnumber)]
      obtain ⟨x, y, hx, hy, -⟩ | ⟨e, e', hx, hy, -⟩ := h.outcome
      · simp [hx, hy]
      · simp [hx, hy]
  · intro hclash
    refine endAlike_compare hwith fun t l r hready => ?_
    rcases hready.plain with ⟨hl, hr⟩ | ⟨rfl, rfl, rfl, rfl⟩
    · have hno : Clashes l r ↔ Clashes r l :=
        iff_of_false (not_clashes_of_isPlain hl hr) (not_clashes_of_isPlain hr hl)
      exact endAlike_compareConverted_eq hl.wellKeyed hr.wellKeyed hno ..
    · exact endAlike_compareConverted_eq ha hb (hclash rfl rfl) ..

/-! ### The laws -/

/-- **The laws of the orders** for two sides. -/
structure OrderLaws (a : Value) (ta : DataType) (b : Value) (tb : DataType) : Prop where
  /-- Less from one side is greater from the other. -/
  less : OneAnswer (compare .lt a ta b tb) (compare .gt b tb a ta)
  /-- At most from one side is at least from the other. -/
  atMost : OneAnswer (compare .lte a ta b tb) (compare .gte b tb a ta)
  /-- Where there is an order, exactly one of less, equal and greater holds, and the other two
  orders are less or equal, and greater or equal. -/
  trichotomy : ∀ less, compare .lt a ta b tb = .ok less →
    ∃ equal greater, compare .eq a ta b tb = .ok equal ∧ compare .gt a ta b tb = .ok greater ∧
      [less, equal, greater].count true = 1 ∧
      compare .lte a ta b tb = .ok (less || equal) ∧
      compare .gte a ta b tb = .ok (greater || equal)

/-- **Comparisons are lawful.** For two sides whose types go together, orders have the same answer
as the converse orders from the other side; and where they answer, exactly one of less, equal and
greater holds, at most is less or equal, and at least is greater or equal. Equality has the same
answer from either side except for two sides of no declared type that clash, from one side only, in
a number that signals. This does not happen unless one of them has a record that such a number
stands in. Records have no key twice here, as equality asks for; orders do not. -/
theorem compare_lawful (hwith : ta.GoesWith tb) (a b : Value) :
    OrderLaws a ta b tb ∧
      (a.WellKeyed → b.WellKeyed →
        (OneAnswer (compare .eq a ta b tb) (compare .eq b tb a ta) ↔
          (ta = .any → tb = .any → (Clashes a b ↔ Clashes b a))) ∧
        (¬a.SignalsInRecord → ¬b.SignalsInRecord →
          OneAnswer (compare .eq a ta b tb) (compare .eq b tb a ta))) := by
  refine ⟨⟨?less, ?atMost, fun less hless => ?trichotomy⟩, fun ha hb => ?equality⟩
  case less => exact endAlike_compare_converse hwith rfl a b
  case atMost => exact endAlike_compare_converse hwith rfl a b
  case trichotomy =>
    obtain ⟨o, horder, heq⟩ := exists_order_of_compare_lt hless
    obtain rfl : orderHolds .lt o = less := Except.ok.inj ((horder .lt rfl).symm.trans hless)
    refine ⟨_, _, heq, horder .gt rfl, ?_, ?_, ?_⟩
    · cases o <;> rfl
    · rw [horder .lte rfl]
      cases o <;> rfl
    · rw [horder .gte rfl]
      cases o <;> rfl
  case equality =>
    have hequal := endAlike_compare_eq_iff hwith ha hb
    refine ⟨hequal, fun hsilent hsilent' => hequal.mpr fun _ _ => ⟨fun h => ?_, fun h => ?_⟩⟩
    · exact h.swap ha hb hsilent hsilent'
    · exact h.swap hb ha hsilent' hsilent

end Value

/-! ### A day and its noon, and two records -/

theorem leapDay_compare_lawful :
    DataType.GoesWith .date .any ∧ (Value.temporal (.day leapDay)).WellKeyed ∧
      (Value.temporal (.moment leapNoon)).WellKeyed ∧
      Value.compare .lt (.temporal (.day leapDay)) .date (.temporal (.moment leapNoon)) .any =
        .ok true ∧
      Value.OrderLaws (.temporal (.day leapDay)) .date (.temporal (.moment leapNoon)) .any ∧
      OneAnswer
        (Value.compare .eq (.temporal (.day leapDay)) .date (.temporal (.moment leapNoon)) .any)
        (Value.compare .eq (.temporal (.moment leapNoon)) .any (.temporal (.day leapDay))
          .date) := by
  have hwith : DataType.GoesWith .date .any := .inr (.inl rfl)
  have hday : (Value.temporal (.day leapDay)).WellKeyed := .scalar rfl
  have hnoon : (Value.temporal (.moment leapNoon)).WellKeyed := .scalar rfl
  obtain ⟨horders, hequality⟩ :=
    Value.compare_lawful hwith (.temporal (.day leapDay)) (.temporal (.moment leapNoon))
  exact ⟨hwith, hday, hnoon, rfl, horders, (hequality hday hnoon).1.mpr nofun⟩

/-- A record with a number that signals. -/
def signalingRecord : Value :=
  .record [("x", .int 1), ("y", .decimal (.nan false true 0))]

/-- A record that differs from it in another field, with its fields the other way round. -/
def silentRecord : Value :=
  .record [("y", .int 1), ("x", .int 2)]

/-- **Equality is not the same from either side**: the first field of the one record tells it from
the other, the first field of the other comes to the number that signals. -/
theorem equality_not_symmetric :
    DataType.GoesWith .any .any ∧ signalingRecord.WellKeyed ∧ silentRecord.WellKeyed ∧
      Value.compare .eq signalingRecord .any silentRecord .any = .ok false ∧
      Value.compare .eq silentRecord .any signalingRecord .any =
        .error (.fault (.arithmetic .invalidOperation)) ∧
      ¬OneAnswer (Value.compare .eq signalingRecord .any silentRecord .any)
        (Value.compare .eq silentRecord .any signalingRecord .any) := by
  have hscalars : ∀ fields : List (String × Value),
      (∀ f ∈ fields, f.2.isScalar = true) → ∀ f ∈ fields, f.2.WellKeyed :=
    fun _ h f hf => .scalar (h f hf)
  exact ⟨.inl rfl, .record (by decide) (hscalars _ (by decide)),
    .record (by decide) (hscalars _ (by decide)), rfl, rfl, id⟩

end RuleFlow
