import Mathlib.Tactic.FieldSimp
import RuleFlow.Proofs.Number.Logarithm

/-!
# The numbers that decimals and doubles are

Decimals and doubles are compared, converted and rounded in whole numbers. What these operations
come to is told here by the rational numbers that decimals and doubles stand for.

* `RuleFlow.Number.Decimal.toRat` and `RuleFlow.Number.Binary64.Finite.toRat` are these numbers, and
  `RuleFlow.Number.Decimal.magnitude` and `RuleFlow.Number.Binary64.Finite.magnitude` their
  magnitudes.
* `RuleFlow.Number.Decimal.adjusted_eq` says what the exponent of the leading digit is.
* `RuleFlow.Number.Decimal.compareFinite_eq`: decimals are ordered as these numbers are.
* `RuleFlow.Number.Binary64.Finite.exists_toDecimal_eq`: the exact decimal of a double is the same
  number.
-/

namespace RuleFlow.Number

/-! ### Signs -/

/-- A magnitude with a sign. -/
def withSign (negative : Bool) (magnitude : ℚ) : ℚ :=
  if negative then -magnitude else magnitude

/-- **Numbers with signs are equal** if sign and magnitude are, the sign of zero aside. -/
theorem withSign_eq_iff {n m : Bool} {p q : ℚ} (hp : 0 ≤ p) (hq : 0 ≤ q) :
    withSign n p = withSign m q ↔ p = q ∧ (n = m ∨ p = 0) := by
  cases n <;> cases m <;> simp [withSign] <;> grind

theorem abs_withSign (negative : Bool) {p : ℚ} (hp : 0 ≤ p) : |withSign negative p| = p := by
  cases negative <;> simp [withSign, abs_of_nonneg hp]

theorem withSign_zero (negative : Bool) : withSign negative 0 = 0 := by
  cases negative <;> simp [withSign]

/-- Numbers of one sign are as far apart as their magnitudes. -/
theorem abs_withSign_sub (negative : Bool) (p q : ℚ) :
    |withSign negative p - withSign negative q| = |p - q| := by
  cases negative with
  | false => rfl
  | true => rw [withSign, if_pos rfl, withSign, if_pos rfl, neg_sub_neg, abs_sub_comm]

/-- A sign that is taken twice is lost. -/
theorem withSign_withSign (negative : Bool) (p : ℚ) :
    withSign negative (withSign negative p) = p := by
  cases negative <;> simp [withSign]

/-- A sum has the sign of its first part, and the second part is added to it or taken away. -/
theorem withSign_add_withSign (n m : Bool) (p q : ℚ) :
    withSign n p + withSign m q = withSign n (p + withSign (n != m) q) := by
  cases n <;> cases m <;> simp [withSign, add_comm]

/-- Two comparisons with the same outcome. -/
theorem compare_congr {α β : Type} [LinearOrder α] [LinearOrder β] {a b : α} {c d : β}
    (hlt : a < b ↔ c < d) (hgt : b < a ↔ d < c) : compare a b = compare c d := by
  rcases lt_trichotomy a b with h | h | h
  · rw [compare_lt_iff_lt.mpr h, compare_lt_iff_lt.mpr (hlt.mp h)]
  · have heq : c = d := le_antisymm (not_lt.mp (mt hgt.mpr h.not_gt))
      (not_lt.mp (mt hlt.mpr h.not_lt))
    rw [compare_eq_iff_eq.mpr h, compare_eq_iff_eq.mpr heq]
  · rw [compare_gt_iff_gt.mpr h, compare_gt_iff_gt.mpr (hgt.mp h)]

/-- The order of whole numbers is kept in any unit. -/
theorem compare_mul_right (m n : Nat) {unit : ℚ} (hunit : 0 < unit) :
    compare ((m : ℚ) * unit) (n * unit) = compare m n :=
  compare_congr (by rw [mul_lt_mul_iff_left₀ hunit, Nat.cast_lt])
    (by rw [mul_lt_mul_iff_left₀ hunit, Nat.cast_lt])

/-- The order of opposite numbers is the opposite one. -/
theorem compare_neg (p q : ℚ) : compare (-p) (-q) = compare q p :=
  compare_congr neg_lt_neg_iff neg_lt_neg_iff

namespace Decimal

variable {c : Nat} {e : Int}

/-! ### Decimals -/

/-- **The magnitude** that a coefficient and an exponent write. -/
def magnitude (coefficient : Nat) (exponent : Int) : ℚ :=
  coefficient * 10 ^ exponent

/-- **The number that a finite decimal is.** The special values are no numbers and count as zero. -/
def toRat : Decimal → ℚ
  | .finite negative coefficient exponent => withSign negative (magnitude coefficient exponent)
  | _ => 0

theorem cast_signed (negative : Bool) (n : Nat) :
    ((signed negative n : ℤ) : ℚ) = withSign negative n := by
  cases negative <;> simp [signed, withSign]

/-- A whole number as a decimal is the same number. -/
theorem toRat_ofInt (n : Int) : (ofInt n).toRat = n := by
  rw [ofInt, toRat, withSign, magnitude]
  by_cases hneg : n < 0
  · obtain ⟨k, rfl⟩ : ∃ k : Nat, n = -k := ⟨n.natAbs, by omega⟩
    simp
  · obtain ⟨k, rfl⟩ := Int.eq_ofNat_of_zero_le (Int.not_lt.mp hneg)
    simp

theorem magnitude_nonneg (c : Nat) (e : Int) : 0 ≤ magnitude c e := by
  rw [magnitude]
  positivity

@[simp] theorem magnitude_eq_zero : magnitude c e = 0 ↔ c = 0 := by
  have hpow : (10 : ℚ) ^ e ≠ 0 := zpow_ne_zero _ (by norm_num)
  simp [magnitude, hpow]

theorem magnitude_pos (hc : c ≠ 0) : 0 < magnitude c e :=
  (magnitude_nonneg c e).lt_of_ne' (mt magnitude_eq_zero.mp hc)

/-- **The exponent of the leading digit** depends on the number alone. -/
theorem adjusted_eq (hc : c ≠ 0) : adjusted c e = Int.log 10 (magnitude c e) := by
  have hlog := log_mul_zpow (b := 10) (by decide) hc e
  rw [Nat.cast_ofNat] at hlog
  rw [magnitude, hlog, adjusted, digitCount_eq]
  omega

/-- In a smaller unit a number has a larger coefficient. -/
theorem magnitude_scaled {unit : Int} (h : unit ≤ e) :
    magnitude (scaled c e unit) unit = magnitude c e := by
  obtain ⟨n, rfl⟩ : ∃ n : Nat, e = n + unit := ⟨(e - unit).toNat, by omega⟩
  have hplaces : ((n : Int) + unit - unit).toNat = n := by omega
  have hscaled : ((scaled c (n + unit) unit : Nat) : ℚ) = c * 10 ^ n := by
    rw [scaled, hplaces]
    exact_mod_cast rfl
  rw [magnitude, magnitude, hscaled, zpow_add₀ (by norm_num), zpow_natCast, mul_assoc]

/-- A leading digit further to the left makes the larger number. -/
theorem magnitude_lt_of_adjusted_lt {c' : Nat} {e' : Int} (hc : c ≠ 0) (hc' : c' ≠ 0)
    (h : adjusted c e < adjusted c' e') : magnitude c e < magnitude c' e' := by
  rw [adjusted_eq hc, adjusted_eq hc'] at h
  by_contra hle
  exact absurd (Int.log_mono_right (magnitude_pos hc') (not_lt.mp hle)) (not_le.mpr h)

/-- **Magnitudes are ordered as numbers are.** -/
theorem compareMagnitude_eq (c₁ : Nat) (e₁ : Int) (c₂ : Nat) (e₂ : Int) :
    compareMagnitude c₁ e₁ c₂ e₂ = compare (magnitude c₁ e₁) (magnitude c₂ e₂) := by
  rw [compareMagnitude]
  split_ifs with h₁ h₂ h₂
  · rw [magnitude_eq_zero.mpr h₁, magnitude_eq_zero.mpr h₂, compare_eq_iff_eq.mpr rfl]
  · rw [magnitude_eq_zero.mpr h₁, compare_lt_iff_lt.mpr (magnitude_pos h₂)]
  · rw [magnitude_eq_zero.mpr h₂, compare_gt_iff_gt.mpr (magnitude_pos h₁)]
  · rcases lt_trichotomy (adjusted c₁ e₁) (adjusted c₂ e₂) with h | h | h
    · rw [compare_lt_iff_lt.mpr h, compare_lt_iff_lt.mpr (magnitude_lt_of_adjusted_lt h₁ h₂ h)]
    · -- Both magnitudes are brought to the smaller of the two units.
      rw [compare_eq_iff_eq.mpr h, ← magnitude_scaled (Int.min_le_left e₁ e₂),
        ← magnitude_scaled (Int.min_le_right e₁ e₂)]
      exact (compare_mul_right _ _ (zpow_pos (by norm_num) _)).symm
    · rw [compare_gt_iff_gt.mpr h, compare_gt_iff_gt.mpr (magnitude_lt_of_adjusted_lt h₂ h₁ h)]

/-- A decimal is below zero if it has the sign and is not zero. -/
theorem toRat_finite (n : Bool) (c : Nat) (e : Int) :
    (finite n c e).toRat = if n && c != 0 then -magnitude c e else magnitude c e := by
  by_cases hc : c = 0
  · subst hc
    cases n <;> simp [toRat, withSign, magnitude]
  · cases n <;> simp [toRat, withSign, hc]

/-- **Finite decimals are ordered as numbers are.** -/
theorem compareFinite_eq (n₁ : Bool) (c₁ : Nat) (e₁ : Int) (n₂ : Bool) (c₂ : Nat) (e₂ : Int) :
    compareFinite n₁ c₁ e₁ n₂ c₂ e₂ =
      compare (finite n₁ c₁ e₁).toRat (finite n₂ c₂ e₂).toRat := by
  have hbelow : ∀ {n : Bool} {c : Nat} {e : Int}, (n && c != 0) = true → -magnitude c e < 0 := by
    intro n c e h
    have hc : c ≠ 0 := by simpa using (Bool.and_eq_true_iff.mp h).2
    exact neg_lt_zero.mpr (magnitude_pos hc)
  rw [compareFinite, toRat_finite, toRat_finite]
  by_cases hzero : c₁ = 0 ∧ c₂ = 0
  · obtain ⟨rfl, rfl⟩ := hzero
    simp [magnitude]
  · rw [if_neg hzero]
    cases h₁ : n₁ && c₁ != 0 with
    | true =>
      cases h₂ : n₂ && c₂ != 0 with
      | true => exact (compareMagnitude_eq ..).trans (compare_neg ..).symm
      | false => exact (compare_lt_iff_lt.mpr ((hbelow h₁).trans_le (magnitude_nonneg ..))).symm
    | false =>
      cases h₂ : n₂ && c₂ != 0 with
      | true => exact (compare_gt_iff_gt.mpr ((hbelow h₂).trans_le (magnitude_nonneg ..))).symm
      | false => exact compareMagnitude_eq ..

/-- **Numbers are equal as decimals** if they are the same numbers. -/
theorem compare?_eq_some_eq_iff {d e : Decimal} (hd : d.isFinite = true) (he : e.isFinite = true) :
    compare? d e = some .eq ↔ d.toRat = e.toRat := by
  cases d with
  | finite n₁ c₁ e₁ =>
    cases e with
    | finite n₂ c₂ e₂ => rw [compare?, Option.some.injEq, compareFinite_eq, compare_eq_iff_eq]
    | _ => exact nomatch he
  | _ => exact nomatch hd

end Decimal

/-! ### Doubles -/

namespace Binary64.Finite

variable {x : Finite}

/-- **The magnitude** of a double. -/
def magnitude (x : Finite) : ℚ :=
  x.mantissa * 2 ^ x.exponent

/-- **The number that a double is.** -/
def toRat (x : Finite) : ℚ :=
  withSign x.negative x.magnitude

theorem magnitude_nonneg (x : Finite) : 0 ≤ x.magnitude := by
  rw [magnitude]
  positivity

@[simp] theorem magnitude_eq_zero : x.magnitude = 0 ↔ x.mantissa = 0 := by
  have hpow : (2 : ℚ) ^ x.exponent ≠ 0 := zpow_ne_zero _ (by norm_num)
  simp [magnitude, hpow]

/-- **The exact decimal of a double** is the same number, written with the exponent of the double
or as a whole number. -/
theorem exists_toDecimal_eq (x : Finite) :
    ∃ c, toDecimal (.finite x) = .finite x.negative c (min x.exponent 0) ∧
      Decimal.magnitude c (min x.exponent 0) = x.magnitude := by
  rw [toDecimal]
  split_ifs with he
  · obtain ⟨n, hn⟩ := Int.eq_ofNat_of_zero_le he
    rw [Int.min_eq_right he]
    refine ⟨_, rfl, ?_⟩
    simp [Decimal.magnitude, magnitude, hn]
  · obtain ⟨n, hn⟩ : ∃ n : Nat, x.exponent = -n := ⟨(-x.exponent).toNat, by omega⟩
    rw [Int.min_eq_left (Int.le_of_lt (Int.not_le.mp he))]
    refine ⟨_, rfl, ?_⟩
    have hten : (10 : ℚ) ^ n = 5 ^ n * 2 ^ n := by
      rw [← mul_pow]
      norm_num
    simp [Decimal.magnitude, magnitude, hn, hten]
    field_simp

theorem toRat_toDecimal (x : Finite) : (toDecimal (.finite x)).toRat = x.toRat := by
  obtain ⟨c, hdecimal, hmagnitude⟩ := x.exists_toDecimal_eq
  rw [hdecimal, Decimal.toRat, hmagnitude]
  rfl

end Binary64.Finite

end RuleFlow.Number
