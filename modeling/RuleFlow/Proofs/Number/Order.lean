import RuleFlow.Number.Decimal.Basic

/-!
# The order of decimals from either side

Decimals are compared by sign, then by the place of their first digit, and only then by their
digits. Asked the other way round, each of these comparisons gives the other answer.

* `RuleFlow.Number.Decimal.swap_compareMagnitude` and `RuleFlow.Number.Decimal.swap_compareFinite`
  are the steps.
* `RuleFlow.Number.Decimal.compare?_swap` is the law for all decimals.
-/

namespace RuleFlow.Number.Decimal

theorem swap_compareMagnitude (c₁ : Nat) (e₁ : Int) (c₂ : Nat) (e₂ : Int) :
    (compareMagnitude c₁ e₁ c₂ e₂).swap = compareMagnitude c₂ e₂ c₁ e₁ := by
  rw [compareMagnitude, compareMagnitude]
  by_cases h₁ : c₁ = 0
  · by_cases h₂ : c₂ = 0
    · simp [h₁, h₂]
    · simp [h₁, h₂]
  · by_cases h₂ : c₂ = 0
    · simp [h₁, h₂]
    · -- The places of the first digits decide, or else the digits in their common unit.
      rw [if_neg h₁, if_neg h₂, if_neg h₂, if_neg h₁,
        ← Int.compare_swap (adjusted c₁ e₁) (adjusted c₂ e₂), Int.min_comm e₂ e₁]
      cases compare (adjusted c₁ e₁) (adjusted c₂ e₂) with
      | lt => rfl
      | eq => exact Nat.compare_swap ..
      | gt => rfl

theorem swap_compareFinite (n₁ : Bool) (c₁ : Nat) (e₁ : Int) (n₂ : Bool) (c₂ : Nat) (e₂ : Int) :
    (compareFinite n₁ c₁ e₁ n₂ c₂ e₂).swap = compareFinite n₂ c₂ e₂ n₁ c₁ e₁ := by
  rw [compareFinite, compareFinite]
  by_cases hzero : c₁ = 0 ∧ c₂ = 0
  · rw [if_pos hzero, if_pos hzero.symm]
    rfl
  · rw [if_neg hzero, if_neg (mt And.symm hzero)]
    cases n₁ && c₁ != 0 with
    | true =>
      cases n₂ && c₂ != 0 with
      | true => exact swap_compareMagnitude ..
      | false => rfl
    | false =>
      cases n₂ && c₂ != 0 with
      | true => rfl
      | false => exact swap_compareMagnitude ..

/-- **The order of two decimals from either side**, if they have one. -/
theorem compare?_swap (d e : Decimal) : compare? e d = (compare? d e).map Ordering.swap := by
  cases d with
  | finite n₁ c₁ e₁ =>
    cases e with
    | finite n₂ c₂ e₂ => exact congrArg some (swap_compareFinite ..).symm
    | infinite n => cases n <;> rfl
    | nan n signaling payload => rfl
  | infinite n₁ =>
    cases e with
    | finite n c e => cases n₁ <;> rfl
    | infinite n₂ => cases n₁ <;> cases n₂ <;> rfl
    | nan n signaling payload => rfl
  | nan n signaling payload => cases e <;> rfl

end RuleFlow.Number.Decimal
