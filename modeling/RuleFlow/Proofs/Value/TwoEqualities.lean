import RuleFlow.Builtin.Basic
import RuleFlow.Proofs.Number.ShortestText
import RuleFlow.Proofs.Value.Equality
import RuleFlow.Proofs.Value.FiniteNumber

/-!
# Two equalities of numbers

Numbers are compared in two ways. The built-in compares them as they are; a condition on sides of no
declared type compares them as they are written, since every number is made a decimal there and a
double becomes the decimal of its shortest text. Most doubles are not the number that their text
writes, and so the two may differ. They differ in nothing else: two doubles are the same number if
and only if their texts are, as the text of a double is read back.

* `RuleFlow.Value.equals_eq_decide` and `RuleFlow.Value.compare_any_eq_decide` tell by these what
  the two equalities are.
* `RuleFlow.Value.Splits` says when the two numbers of a double come between it and another value.
* `RuleFlow.Value.equalities_agree_iff` is the result.
-/

namespace RuleFlow

open Number

namespace Value

variable {v w : Value}

/-! ### The two equalities -/

theorem sameNumber_eq_decide {d e : Decimal} (hd : d.isFinite = true) (he : e.isFinite = true) :
    sameNumber d e = .ok (decide (d.toRat = e.toRat)) := by
  have hsilent : d.isSignaling = false := isPlain_of_isFinite hd
  have hsilent' : e.isSignaling = false := isPlain_of_isFinite he
  rw [sameNumber, hsilent, hsilent', Bool.or_self, if_neg Bool.false_ne_true]
  congr 1
  rw [Bool.eq_iff_iff, beq_iff_eq, decide_eq_true_iff]
  exact Decimal.compare?_eq_some_eq_iff hd he

/-- **Equality compares numbers as they are.** -/
theorem same_eq_decide (hv : v.IsFiniteNumber) (hw : w.IsFiniteNumber) :
    same v w = .ok (decide (v.toRat = w.toRat)) := by
  obtain ⟨d, hd, hdfinite, hdrat⟩ := hv.exists_number?
  obtain ⟨e, he, hefinite, herat⟩ := hw.exists_number?
  rw [same_of_number? hd, he, Option.elim_some, sameNumber_eq_decide hdfinite hefinite, hdrat,
    herat]

/-- The opposite answers of the two operators. -/
theorem compareConverted_of_same {trouble : Trouble} {equal : Bool} (h : same v w = .ok equal) :
    compareConverted trouble .eq (.known .number) v w = .ok equal ∧
      compareConverted trouble .neq (.known .number) v w = .ok !equal := by
  cases equal <;> simp [compareConverted, h]

/-- **Conditions compare numbers as they are written**, if no type is declared for them. -/
theorem compare_any_eq_decide (hv : v.IsFiniteNumber) (hw : w.IsFiniteNumber) :
    compare .eq v .any w .any = .ok (decide (v.writtenRat = w.writtenRat)) ∧
      compare .neq v .any w .any = .ok !decide (v.writtenRat = w.writtenRat) := by
  obtain ⟨d, hd, hdfinite, hdrat⟩ := hv.exists_toNumber
  obtain ⟨e, he, hefinite, herat⟩ := hw.exists_toNumber
  have hcoerce : ∀ {v : Value} {d : Decimal}, v.IsFiniteNumber → v.toNumber = .ok d →
      DeclaredType.coerce v (.known .number) = .ok (.decimal d) := by
    intro v d hv hd
    rw [DeclaredType.coerce, coerce_number hv.isNumber, hd]
    rfl
  have hboth : coerceBoth (.known .number) v w = .ok (.decimal d, .decimal e) :=
    coerceBoth_eq_ok.mpr ⟨hcoerce hv hd, hcoerce hw he⟩
  have hsame : same (.decimal d) (.decimal e) = .ok (decide (v.writtenRat = w.writtenRat)) := by
    rw [same_of_number? rfl, number?, Option.elim_some, sameNumber_eq_decide hdfinite hefinite,
      hdrat, herat]
  have hnumber := inferType_eq_number_iff.mpr ⟨hv.isNumber, hw.isNumber⟩
  rw [compare_any_of_number hnumber, compare_any_of_number hnumber, hboth]
  exact compareConverted_of_same hsame

theorem typeName_of_isNumber (h : v.isNumber = true) : v.typeName = "Number" := by
  cases v with
  | int | float | decimal => rfl
  | _ => exact absurd h Bool.false_ne_true

/-- **The built-ins compare numbers as they are.** -/
theorem equals_eq_decide (hv : v.IsFiniteNumber) (hw : w.IsFiniteNumber) :
    Builtin.equals.invoke [v, w] = .success (.bool (decide (v.toRat = w.toRat))) ∧
      Builtin.notEquals.invoke [v, w] = .success (.bool !decide (v.toRat = w.toRat)) := by
  have hkind : OnValue.sameKindAndValue v w = .ok (decide (v.toRat = w.toRat)) := by
    rw [OnValue.sameKindAndValue, typeName_of_isNumber hv.isNumber,
      typeName_of_isNumber hw.isNumber,
      if_pos rfl, same_eq_decide hv hw]
  have hinvoke : ∀ b : Builtin, ∀ outcome : Outcome, b.apply [v, w] = .ok outcome →
      b.invoke [v, w] = outcome := fun b outcome h => by rw [Builtin.invoke, h]
  constructor
  · refine hinvoke _ _ ?_
    change OnValue.equals v w = _
    rw [OnValue.equals, hkind]
    rfl
  · refine hinvoke _ _ ?_
    change OnValue.notEquals v w = _
    rw [OnValue.notEquals, hkind]
    rfl

/-! ### Where they agree -/

/-- **A double splits from a value**: its text writes another number than it is, and the value,
which is no double, is one of the two. -/
def Splits (v w : Value) : Prop :=
  v.toRat ≠ v.writtenRat ∧ (∀ x, w ≠ .float x) ∧ (w.toRat = v.toRat ∨ w.toRat = v.writtenRat)

/-- What is no double does not split. -/
theorem not_splits_of_not_float (h : ∀ x, v ≠ .float x) (w : Value) : ¬v.Splits w :=
  fun hsplits => hsplits.1 (writtenRat_of_not_float h).symm

/-- **Two doubles are the same number** if and only if they are written as the same number. -/
theorem toRat_eq_iff_of_float {x y : Binary64} (hx : IsFiniteNumber (.float x))
    (hy : IsFiniteNumber (.float y)) :
    toRat (.float x) = toRat (.float y) ↔ writtenRat (.float x) = writtenRat (.float y) := by
  cases x with
  | finite x =>
    cases y with
    | finite y => exact (x.toRat_toShortDecimal_eq_iff y).symm
    | _ => exact absurd hy.isNonFinite.symm Bool.false_ne_true
  | _ => exact absurd hx.isNonFinite.symm Bool.false_ne_true

/-- **A number that is no double** is equal to another in both ways or in neither, unless the other
splits from it. -/
theorem toRat_eq_iff_of_not_splits (hw : ∀ x, w ≠ .float x) :
    (v.toRat = w.toRat ↔ v.writtenRat = w.writtenRat) ↔ ¬v.Splits w := by
  rw [Splits, writtenRat_of_not_float hw]
  constructor
  · rintro h ⟨hapart, -, heq | heq⟩
    · exact hapart (heq.symm.trans (h.mp heq.symm).symm)
    · exact hapart ((h.mpr heq.symm).trans heq)
  · intro h
    by_cases hapart : v.toRat = v.writtenRat
    · rw [hapart]
    · exact iff_of_false (fun heq => h ⟨hapart, hw, .inl heq.symm⟩)
        fun heq => h ⟨hapart, hw, .inr heq.symm⟩

/-- **The two equalities agree** on all pairs of finite numbers, except for a double beside a number
of another kind from which it splits. -/
theorem equalities_agree_iff (hv : v.IsFiniteNumber) (hw : w.IsFiniteNumber) :
    ∃ strict loose : Bool,
      Builtin.equals.invoke [v, w] = .success (.bool strict) ∧
        Builtin.notEquals.invoke [v, w] = .success (.bool !strict) ∧
        compare .eq v .any w .any = .ok loose ∧
        compare .neq v .any w .any = .ok !loose ∧
        (∃ d e, v.toNumber = .ok d ∧ w.toNumber = .ok e ∧
          (loose = true ↔ Decimal.compare? d e = some .eq)) ∧
        (strict = true ↔ v.toRat = w.toRat) ∧
        (strict = loose ↔ ¬(v.Splits w ∨ w.Splits v)) := by
  obtain ⟨hequals, hnotEquals⟩ := equals_eq_decide hv hw
  obtain ⟨heq, hneq⟩ := compare_any_eq_decide hv hw
  obtain ⟨d, hd, hdfinite, hdrat⟩ := hv.exists_toNumber
  obtain ⟨e, he, hefinite, herat⟩ := hw.exists_toNumber
  refine ⟨_, _, hequals, hnotEquals, heq, hneq, ⟨d, e, hd, he, ?_⟩, decide_eq_true_iff, ?_⟩
  · rw [decide_eq_true_iff, Decimal.compare?_eq_some_eq_iff hdfinite hefinite, hdrat, herat]
  rw [decide_eq_decide]
  -- Two doubles never split, and of two other numbers neither does.
  by_cases hfloat : ∃ x, v = .float x
  · obtain ⟨x, rfl⟩ := hfloat
    by_cases hfloat' : ∃ y, w = .float y
    · obtain ⟨y, rfl⟩ := hfloat'
      refine iff_of_true (toRat_eq_iff_of_float hv hw) ?_
      rintro (⟨-, hother, -⟩ | ⟨-, hother, -⟩)
      · exact hother y rfl
      · exact hother x rfl
    · have hother : ∀ y, w ≠ .float y := fun y h => hfloat' ⟨y, h⟩
      rw [toRat_eq_iff_of_not_splits hother, or_iff_left (not_splits_of_not_float hother _)]
  · have hother : ∀ x, v ≠ .float x := fun x h => hfloat ⟨x, h⟩
    rw [eq_comm (a := v.toRat), eq_comm (a := v.writtenRat), toRat_eq_iff_of_not_splits hother,
      or_iff_right (not_splits_of_not_float hother _)]

end Value

/-! ### A tenth -/

/-- The double nearest to a tenth, which is a little more. -/
def nearTenth : Binary64 :=
  .finite
    { negative := false, mantissa := 7205759403792794, exponent := -56, canonical := by decide }

theorem toShortDecimal_nearTenth : nearTenth.toShortDecimal = .finite false 1 (-1) := by
  decide +kernel

/-- This double as a value. -/
def tenthDouble : Value :=
  .float nearTenth

/-- A tenth. -/
def tenthDecimal : Value :=
  .decimal <| .finite false 1 (-1)

theorem tenth_equalities_agree_iff :
    tenthDouble.IsFiniteNumber ∧ tenthDecimal.IsFiniteNumber ∧
      ∃ strict loose : Bool,
        Builtin.equals.invoke [tenthDouble, tenthDecimal] = .success (.bool strict) ∧
          Builtin.notEquals.invoke [tenthDouble, tenthDecimal] = .success (.bool !strict) ∧
          Value.compare .eq tenthDouble .any tenthDecimal .any = .ok loose ∧
          Value.compare .neq tenthDouble .any tenthDecimal .any = .ok !loose ∧
          (∃ d e, tenthDouble.toNumber = .ok d ∧ tenthDecimal.toNumber = .ok e ∧
            (loose = true ↔ Decimal.compare? d e = some .eq)) ∧
          (strict = true ↔ tenthDouble.toRat = tenthDecimal.toRat) ∧
          (strict = loose ↔
            ¬(tenthDouble.Splits tenthDecimal ∨ tenthDecimal.Splits tenthDouble)) :=
  ⟨⟨rfl, rfl⟩, ⟨rfl, rfl⟩, Value.equalities_agree_iff ⟨rfl, rfl⟩ ⟨rfl, rfl⟩⟩

/-- **A tenth as a double and as a decimal** are equal in a condition and not for the built-in. -/
theorem tenth_equal_in_one_way :
    tenthDouble.IsFiniteNumber ∧ tenthDecimal.IsFiniteNumber ∧
      Builtin.equals.invoke [tenthDouble, tenthDecimal] = .success (.bool false) ∧
      Value.compare .eq tenthDouble .any tenthDecimal .any = .ok true ∧
      ¬∀ v w : Value, v.IsFiniteNumber → w.IsFiniteNumber →
        (Builtin.equals.invoke [v, w] = .success (.bool true) ↔
          Value.compare .eq v .any w .any = .ok true) := by
  have hequals : Builtin.equals.invoke [tenthDouble, tenthDecimal] = .success (.bool false) := by
    rfl
  have hwritten : tenthDouble.writtenRat = tenthDecimal.writtenRat :=
    congrArg Decimal.toRat toShortDecimal_nearTenth
  have hcompare : Value.compare .eq tenthDouble .any tenthDecimal .any = .ok true := by
    rw [(Value.compare_any_eq_decide ⟨rfl, rfl⟩ ⟨rfl, rfl⟩).1, decide_eq_true hwritten]
  refine ⟨⟨rfl, rfl⟩, ⟨rfl, rfl⟩, hequals, hcompare, fun h => ?_⟩
  have hstrict := (h tenthDouble tenthDecimal ⟨rfl, rfl⟩ ⟨rfl, rfl⟩).mpr hcompare
  rw [hequals] at hstrict
  exact nomatch hstrict

end RuleFlow
