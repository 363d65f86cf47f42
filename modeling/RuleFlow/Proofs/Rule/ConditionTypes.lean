import RuleFlow.Proofs.Builtin.Finite
import RuleFlow.Proofs.Value.Comparison
import RuleFlow.Rule.Compiled

/-!
# The check of conditions against their comparison

The operator of a condition is checked once, against the declared types of its sides; its sides are
compared in every run, after they have been converted to those types. The check knows types only and
the comparison looks at values. This file shows that the two agree.

## What the check admits

An operator suits a type (`RuleFlow.Operator.Suits`) if it may be asked of values of that type.
Under a type that it suits, a comparison of values of the type answers
(`RuleFlow.Value.exists_compare_iff_of_suits`); the only exception is the order of two moments one
of which has no offset, which no type tells apart. Under a type that it does not suit, a comparison
refuses all values, whether they can be converted or not
(`RuleFlow.Value.compare_of_not_suits`), so the check turns away nothing that could ever be true.

* `RuleFlow.Condition.ends_check` says what the check accepts and what it refuses.
* `RuleFlow.Condition.check_iff_comparable` joins the two halves.
-/

namespace RuleFlow

open Number Calendar

/-! ### Moments without an order -/

/-- **Two moments are apart** if one of them has an offset and the other has none. -/
def Calendar.Temporal.Apart : Temporal → Temporal → Prop
  | .moment m, .moment n => m.offset.isSome ≠ n.offset.isSome
  | _, _ => False

/-- **Only moments that are apart have no order**: a date is given the offset of the moment beside
it. -/
theorem Calendar.Temporal.exists_compare?_align_iff (t u : Temporal) :
    (∃ o, (t.align u).1.compare? (t.align u).2 = some o) ↔ ¬t.Apart u := by
  cases t with
  | day d =>
    cases u with
    | day e => exact ⟨fun _ => id, fun _ => ⟨_, rfl⟩⟩
    | moment n =>
      refine ⟨fun _ => id, fun _ => ?_⟩
      simp [align, atMidnight, compare?, microsBetween?]
  | moment m =>
    cases u with
    | day e =>
      refine ⟨fun _ => id, fun _ => ?_⟩
      simp [align, atMidnight, compare?, microsBetween?]
    | moment n =>
      by_cases hsame : n.offset.isSome = m.offset.isSome
      · simp [align, compare?, microsBetween?, Apart, hsame]
      · simp [align, compare?, microsBetween?, Apart, hsame, Ne.symm hsame]

namespace Value

/-- Two values are moments that are apart. -/
def Apart (v w : Value) : Prop :=
  ∃ t u, v = .temporal t ∧ w = .temporal u ∧ t.Apart u

end Value

/-- **An operator suits a type**: orders go with numbers and dates, text tests with texts. -/
def Operator.Suits (op : Operator) (t : DataType) : Prop :=
  (op.isOrdering = true → t = .number ∨ t = .date) ∧ (op.isTextual = true → t = .string)

/-- An operator that neither orders nor searches a text tests for equality. -/
theorem Operator.eq_or_neq {op : Operator} (hordering : op.isOrdering = false)
    (htextual : op.isTextual = false) : op = .eq ∨ op = .neq := by
  cases op with
  | eq => exact .inl rfl
  | neq => exact .inr rfl
  | lt | lte | gt | gte => cases hordering
  | contains | notContains | startsWith | endsWith => cases htextual

namespace Value

variable {op : Operator} {left right a b v w : Value} {leftType rightType t : DataType}
  {trouble : Trouble} {target : DeclaredType}

/-! ### The operators on converted values -/

/-- **The four orders** differ only in the answer that they give to an order. -/
theorem compareConverted_of_isOrdering (hop : op.isOrdering = true) :
    compareConverted trouble op target left right =
      if (target = .known .number ∨ target = .known .date) ∧ !left.isNull ∧ !right.isNull then
        match order? (align left right).1 (align left right).2 with
        | some o => .ok (orderHolds op o)
        | none => .error trouble
      else .error trouble := by
  cases op with
  | lt | lte | gt | gte => rfl
  | _ => cases hop

/-- The four text tests answer for two texts. -/
theorem compareConverted_of_texts (hop : op.isTextual = true) (s t : String) :
    compareConverted trouble op target (.text s) (.text t) =
      .ok (textHolds op s.toList t.toList) := by
  cases op with
  | contains | notContains | startsWith | endsWith => rfl
  | _ => cases hop

/-- The four text tests refuse whatever is no text. -/
theorem compareConverted_of_not_isText (hop : op.isTextual = true) (h : left.isText = false) :
    compareConverted trouble op target left right = .error trouble := by
  cases left with
  | text s => cases h
  | _ =>
    cases op with
    | contains | notContains | startsWith | endsWith => rfl
    | _ => cases hop

/-! ### Values of a type -/

/-- **A value that represents a type** is converted to itself. -/
theorem Represents.coerce_eq (h : v.Represents t) : v.coerce t = .ok v := by
  obtain ⟨htype, hfinite⟩ := h
  cases t with
  | string =>
    obtain ⟨s, rfl⟩ := htype
    rfl
  | number =>
    obtain ⟨d, rfl⟩ := htype
    have hd : d.isFinite = true := by simpa [isNonFinite] using hfinite
    exact coerce_number_of_toNumber (toNumber_decimal hd)
  | boolean =>
    obtain ⟨b, rfl⟩ := htype
    rfl
  | date =>
    obtain ⟨t, rfl⟩ := htype
    rfl
  | any => exact v.coerce_any

/-- A value that represents a type other than `any` is plain. -/
theorem Represents.isPlain (h : v.Represents t) (ht : t ≠ .any) : v.IsPlain :=
  (v.ends_coerce t).of_ok h.coerce_eq ht

/-- What is converted to a type other than `string` and `any` is no text. -/
theorem isText_of_coerce (h : v.coerce t = .ok w) (hany : t ≠ .any) (hstring : t ≠ .string) :
    w.isText = false := by
  by_cases hnull : v.isNull = true
  · rw [coerce.eq_def, if_pos hnull] at h
    obtain rfl := Except.ok.inj h
    cases v with
    | null => rfl
    | _ => cases hnull
  · have hof : w.OfType t := ofType_of_coerce hnull h
    cases t with
    | number | boolean | date =>
      obtain ⟨x, rfl⟩ := hof
      rfl
    | string => exact absurd rfl hstring
    | any => exact absurd rfl hany

/-! ### Comparisons under a declared type -/

/-- The order of two values that represent a type with an order. -/
theorem exists_order?_iff (ht : t = .number ∨ t = .date) (ha : a.Represents t)
    (hb : b.Represents t) :
    (∃ o, order? (align a b).1 (align a b).2 = some o) ↔ ¬Apart a b := by
  rcases ht with rfl | rfl
  · obtain ⟨⟨d, rfl⟩, hd⟩ := ha
    obtain ⟨⟨e, rfl⟩, he⟩ := hb
    have horder : ∃ o, Decimal.compare? d e = some o :=
      exists_compare?_of_isFinite (by simpa [isNonFinite] using hd)
        (by simpa [isNonFinite] using he)
    refine ⟨fun _ hapart => ?_, fun _ => horder⟩
    obtain ⟨t, u, ht, -⟩ := hapart
    cases ht
  · obtain ⟨⟨t, rfl⟩, -⟩ := ha
    obtain ⟨⟨u, rfl⟩, -⟩ := hb
    have hapart : Apart (.temporal t) (.temporal u) ↔ t.Apart u := by
      constructor
      · rintro ⟨t', u', ht, hu, h⟩
        cases ht
        cases hu
        exact h
      · exact fun h => ⟨t, u, rfl, rfl, h⟩
    rw [hapart, ← Temporal.exists_compare?_align_iff]
    rfl

/-- **Under a type that its operator suits**, a comparison of values that represent the type
answers, unless it asks for the order of moments that are apart. -/
theorem exists_compare_iff_of_suits (ht : t ≠ .any) (hop : op.Suits t) (ha : a.Represents t)
    (hb : b.Represents t) :
    (∃ holds, compare op a t b t = .ok holds) ↔ ¬(op.isOrdering = true ∧ Apart a b) := by
  have hboth : coerceBoth (.known t) a b = .ok (a, b) :=
    coerceBoth_eq_ok.mpr ⟨ha.coerce_eq, hb.coerce_eq⟩
  have htarget : targetType (.known t) (.known t) = .known t := ite_self _
  rw [compare_of_declared htarget ht, hboth]
  dsimp only
  cases hordering : op.isOrdering with
  | true =>
    have htype : t = .number ∨ t = .date := hop.1 hordering
    have hnull : ∀ v : Value, v.Represents t → v.isNull = false := by
      intro v hv
      rcases htype with rfl | rfl
      · obtain ⟨⟨d, rfl⟩, -⟩ := hv
        rfl
      · obtain ⟨⟨t, rfl⟩, -⟩ := hv
        rfl
    have hgoes : ((DeclaredType.known t = .known .number ∨ DeclaredType.known t = .known .date) ∧
        (!a.isNull) = true ∧ (!b.isNull) = true) := by
      simpa [hnull a ha, hnull b hb] using htype
    rw [compareConverted_of_isOrdering hordering, if_pos hgoes]
    have horder := exists_order?_iff htype ha hb
    cases hresult : order? (align a b).1 (align a b).2 with
    | none => simpa [hresult] using horder
    | some o => simpa [hresult] using horder
  | false =>
    have hanswers : ∃ holds, compareConverted (mismatch op a b) op (.known t) a b = .ok holds := by
      cases htextual : op.isTextual with
      | true =>
        obtain rfl : t = .string := hop.2 htextual
        obtain ⟨⟨s, rfl⟩, -⟩ := ha
        obtain ⟨⟨s', rfl⟩, -⟩ := hb
        exact ⟨_, compareConverted_of_texts htextual s s'⟩
      | false =>
        have hclash : ¬Clashes a b := not_clashes_of_isPlain (ha.isPlain ht) (hb.isPlain ht)
        exact exists_compareConverted_of_not_clashes (op.eq_or_neq hordering htextual) hclash ..
    simpa using hanswers

/-- **Under a type that its operator does not suit**, a comparison refuses all values. -/
theorem compare_of_not_suits (htarget : targetType (.known leftType) (.known rightType) = .known t)
    (ht : t ≠ .any) (hop : ¬op.Suits t) (a b : Value) :
    compare op a leftType b rightType = .error (mismatch op a b) := by
  rw [compare_of_declared htarget ht]
  cases hboth : coerceBoth (.known t) a b with
  | error f => rfl
  | ok both =>
    obtain ⟨hleft, -⟩ := coerceBoth_eq_ok.mp hboth
    dsimp only
    by_cases hordering : op.isOrdering = true ∧ ¬(t = .number ∨ t = .date)
    · obtain ⟨hordering, htype⟩ := hordering
      rw [compareConverted_of_isOrdering hordering, if_neg]
      simp [not_or.mp htype]
    · have htextual : op.isTextual = true ∧ t ≠ .string := by
        by_contra hno
        refine hop ⟨fun h => ?_, fun h => ?_⟩
        · exact not_not.mp fun htype => hordering ⟨h, htype⟩
        · exact not_not.mp fun htype => hno ⟨h, htype⟩
      have hno : both.1.isText = false := isText_of_coerce hleft ht htextual.2
      exact compareConverted_of_not_isText htextual.1 hno

end Value

/-! ### The check -/

/-- **Two types go together** if they are one type or one of them is `any`. -/
def DataType.GoesWith (t u : DataType) : Prop :=
  t = .any ∨ u = .any ∨ t = u

/-- **The check refuses an operator**, not a pair of types. -/
def BindError.RefusesOperator : BindError → Prop
  | .needsOrder .. | .needsText .. => True
  | _ => False

/-- The type by which a comparison goes is the one by which its operator is checked. -/
theorem Value.targetType_known (leftType rightType : DataType) :
    targetType (.known leftType) (.known rightType) =
      .known (if leftType = .any then rightType else leftType) := by
  rw [targetType]
  by_cases hany : leftType = .any
  · simp [hany]
  · simp [hany]

namespace Condition

/-- **What the check accepts and refuses.** It accepts types that go together, with an operator that
suits the one by which the comparison goes; and it refuses the types or else the operator. -/
theorem ends_check (types : Types) (stepId : String) (index : Nat) (condition : Condition) :
    Ends (condition.check types stepId index)
      (fun _ => (condition.lhs.type types).GoesWith (condition.rhs.type types) ∧
        ∀ t ≠ .any, Value.targetType (.known (condition.lhs.type types))
          (.known (condition.rhs.type types)) = .known t → condition.operator.Suits t)
      (fun e =>
        ¬(condition.lhs.type types).GoesWith (condition.rhs.type types) ∧ ¬e.RefusesOperator ∨
        (condition.lhs.type types).GoesWith (condition.rhs.type types) ∧ e.RefusesOperator ∧
          ∃ t ≠ .any, Value.targetType (.known (condition.lhs.type types))
            (.known (condition.rhs.type types)) = .known t ∧ ¬condition.operator.Suits t) := by
  simp only [Value.targetType_known, DeclaredType.known.injEq]
  rw [check]
  generalize condition.lhs.type types = l
  generalize condition.rhs.type types = r
  generalize condition.operator = op
  dsimp only
  generalize hknown : (if l = .any then r else l) = known
  by_cases hdiffer : l ≠ .any ∧ r ≠ .any ∧ l ≠ r
  · rw [if_pos hdiffer]
    exact .inl ⟨fun h => h.elim hdiffer.1 fun h => h.elim hdiffer.2.1 hdiffer.2.2, id⟩
  rw [if_neg hdiffer]
  have hwith : l.GoesWith r := by
    by_contra hno
    exact hdiffer (by simpa only [DataType.GoesWith, not_or] using hno)
  split_ifs with hany horder htext
  · refine ⟨hwith, ?_⟩
    rintro t ht rfl
    exact absurd hany ht
  · refine .inr ⟨hwith, trivial, known, hany, rfl, fun hsuits => ?_⟩
    exact (hsuits.1 horder.1).elim horder.2.1 horder.2.2
  · exact .inr ⟨hwith, trivial, known, hany, rfl, fun hsuits => htext.2 (hsuits.2 htext.1)⟩
  · refine ⟨hwith, ?_⟩
    rintro t - rfl
    refine ⟨fun hop => ?_, fun hop => ?_⟩
    · by_contra hno
      exact horder ⟨hop, (not_or.mp hno).1, (not_or.mp hno).2⟩
    · by_contra hno
      exact htext ⟨hop, hno⟩

/-- **The check of a condition agrees with its comparison.** If it accepts sides that both have a
declared type, then a comparison of any values that represent these types answers with a truth
value, except for the order of two moments one of which alone has an offset. If it refuses a
condition, then it does so because of the operator exactly if the types of the sides go together;
and a comparison by an operator that was refused, under the same types, refuses every two values as
mismatched. -/
theorem check_iff_comparable (types : Types) (stepId : String) (index : Nat)
    (condition : Condition) :
    (condition.lhs.type types ≠ .any → condition.rhs.type types ≠ .any →
      condition.check types stepId index = .ok () →
      ∀ a b : Value, a.Represents (condition.lhs.type types) →
        b.Represents (condition.rhs.type types) →
        ((∃ holds, Value.compare condition.operator a (condition.lhs.type types) b
            (condition.rhs.type types) = .ok holds) ↔
          ¬(condition.operator.isOrdering = true ∧ a.Apart b))) ∧
    ∀ e, condition.check types stepId index = .error e →
      (e.RefusesOperator ↔ (condition.lhs.type types).GoesWith (condition.rhs.type types)) ∧
      (e.RefusesOperator → ∀ a b : Value,
        Value.compare condition.operator a (condition.lhs.type types) b
          (condition.rhs.type types) = .error (Value.mismatch condition.operator a b)) := by
  have hcheck := ends_check types stepId index condition
  refine ⟨fun hleft hright hok a b ha hb => ?accepted, fun e he => ?refused⟩
  case accepted =>
    obtain ⟨hwith, hsuits⟩ := hcheck.of_ok hok
    have heq := (hwith.resolve_left hleft).resolve_left hright
    rw [heq] at ha hsuits ⊢
    have htarget : Value.targetType (.known (condition.rhs.type types))
        (.known (condition.rhs.type types)) = .known (condition.rhs.type types) := ite_self _
    exact Value.exists_compare_iff_of_suits hright (hsuits _ hright htarget) ha hb
  case refused =>
    rcases hcheck.of_error he with ⟨hwith, hno⟩ | ⟨hwith, hrefuses, t, ht, htarget, hsuits⟩
    · exact ⟨iff_of_false hno hwith, fun hrefuses => absurd hrefuses hno⟩
    · refine ⟨iff_of_true hrefuses hwith, fun _ a b => ?_⟩
      exact Value.compare_of_not_suits htarget ht hsuits a b

end Condition

/-! ### Dates that are ordered, and dates that are searched -/

/-- The last day of February of 2024. -/
def leapDay : Date :=
  ⟨2024, 2, 29, by decide⟩

/-- Its noon, with the offset zero. -/
def leapNoon : Moment :=
  ⟨leapDay, ⟨12, 0, 0, 0, by decide⟩, (Offset.of 0).toOption⟩

/-- Whether a date comes before another. -/
def inOrder : Condition :=
  { lhs := .input "day", operator := .lt, rhs := .literal (.text "2024-02-29T12:00:00") .date }

/-- Whether a date is found in something of no declared type. No date can answer that. -/
def searched : Condition :=
  { lhs := .input "anything", operator := .contains, rhs := .input "day" }

theorem inOrder_check_iff_comparable :
    (inOrder.check [("day", .date)] "s" 0 = .ok () ∧
      (Value.temporal (.day leapDay)).Represents .date ∧
      (Value.temporal (.moment leapNoon)).Represents .date ∧
      ((∃ holds, Value.compare .lt (.temporal (.day leapDay)) .date
          (.temporal (.moment leapNoon)) .date = .ok holds) ↔
        ¬(Operator.lt.isOrdering = true ∧
          (Value.temporal (.day leapDay)).Apart (.temporal (.moment leapNoon))))) ∧
    ∃ e, searched.check [("day", .date)] "s" 0 = .error e ∧
      (e.RefusesOperator ↔ DataType.GoesWith .any .date) ∧
      Value.compare .contains (.text "a") .any (.temporal (.day leapDay)) .date =
        .error (Value.mismatch .contains (.text "a") (.temporal (.day leapDay))) := by
  have hday : (Value.temporal (.day leapDay)).Represents .date := ⟨⟨_, rfl⟩, rfl⟩
  have hnoon : (Value.temporal (.moment leapNoon)).Represents .date := ⟨⟨_, rfl⟩, rfl⟩
  have hordered := Condition.check_iff_comparable [("day", .date)] "s" 0 inOrder
  have hsearched := Condition.check_iff_comparable [("day", .date)] "s" 0 searched
  obtain ⟨hoperator, hrefused⟩ := hsearched.2 _ rfl
  exact ⟨⟨rfl, hday, hnoon, hordered.1 nofun nofun rfl _ _ hday hnoon⟩,
    _, rfl, hoperator, hrefused trivial _ _⟩

end RuleFlow
