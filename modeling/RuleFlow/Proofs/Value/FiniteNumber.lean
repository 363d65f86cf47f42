import RuleFlow.Proofs.Number.Rational
import RuleFlow.Proofs.Value.Conversion

/-!
# Finite numbers among the values

Whole numbers, doubles and decimals are numbers. A double is one number and writes another, since its
text is only as long as is needed to tell it from other doubles. Functions on numbers make a decimal
of every number first, and so take a double for what it writes.

* `RuleFlow.Value.toRat` is the number that a value is, and `RuleFlow.Value.writtenRat` the number
  that it is written as.
* `RuleFlow.Value.IsFiniteNumber.exists_toNumber` says that functions on numbers take the latter.
-/

namespace RuleFlow

open Number

namespace Value

variable {v : Value}

/-- **A finite number**: a whole number, or a double or decimal with a finite value. -/
structure IsFiniteNumber (v : Value) : Prop where
  /-- The value is a number. -/
  isNumber : v.isNumber = true
  /-- It is no infinity and no NaN. -/
  isNonFinite : v.isNonFinite = false

/-- **The number that a value is**, exactly. What is no finite number counts as zero. -/
def toRat : Value → ℚ
  | .int n => n
  | .float (.finite x) => x.toRat
  | .decimal d => d.toRat
  | _ => 0

/-- **The number that a value is written as**: that of its shortest text if it is a double, and the
number that it is otherwise. -/
def writtenRat : Value → ℚ
  | .float x => x.toShortDecimal.toRat
  | v => v.toRat

theorem writtenRat_of_not_float (h : ∀ x, v ≠ .float x) : v.writtenRat = v.toRat := by
  cases v with
  | float x => exact absurd rfl (h x)
  | _ => rfl

/-- The exact decimal of a finite number. -/
theorem IsFiniteNumber.exists_number? (h : v.IsFiniteNumber) :
    ∃ d, v.number? = some d ∧ d.isFinite = true ∧ d.toRat = v.toRat := by
  have hfinite := h.isNonFinite
  cases v with
  | int n => exact ⟨_, rfl, rfl, Decimal.toRat_ofInt n⟩
  | float x =>
    cases x with
    | finite y =>
      obtain ⟨c, hdecimal, -⟩ := y.exists_toDecimal_eq
      exact ⟨_, rfl, by rw [hdecimal]; rfl, y.toRat_toDecimal⟩
    | _ => exact absurd hfinite.symm Bool.false_ne_true
  | decimal d => exact ⟨d, rfl, by simpa [Value.isNonFinite] using hfinite, rfl⟩
  | _ => exact absurd h.isNumber Bool.false_ne_true

/-- The decimal that a finite number is converted to. -/
theorem IsFiniteNumber.exists_toNumber (h : v.IsFiniteNumber) :
    ∃ d, v.toNumber = .ok d ∧ d.isFinite = true ∧ d.toRat = v.writtenRat := by
  obtain ⟨d, hd⟩ := (exists_toNumber_iff h.isNumber).mpr h.isNonFinite
  have hfinite := v.ends_toNumber.of_ok hd
  refine ⟨d, hd, hfinite, ?_⟩
  cases v with
  | int n => exact Except.ok.inj hd ▸ Decimal.toRat_ofInt n
  | float x =>
    simp only [toNumber] at hd
    split_ifs at hd
    exact Except.ok.inj hd ▸ rfl
  | decimal e =>
    simp only [toNumber] at hd
    split_ifs at hd
    exact Except.ok.inj hd ▸ rfl
  | _ => exact absurd h.isNumber Bool.false_ne_true

end Value

end RuleFlow
