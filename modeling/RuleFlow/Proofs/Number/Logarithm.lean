import Mathlib.Algebra.Order.Field.Power
import Mathlib.Data.Int.Log
import Mathlib.Data.Rat.Floor
import RuleFlow.Number.Binary64.Shortest

/-!
# Whole parts of logarithms

Digits are counted, and the exponent of a leading digit is found, by division and comparison alone.
What is found so is the whole part of a logarithm, so that it depends on the number and not on the
ratio that writes it.

* `RuleFlow.Number.digitCount_eq` tells it of the digits of a whole number.
* `RuleFlow.Number.log_mul_zpow` is the logarithm of a multiple of a power, and
  `RuleFlow.Number.log_div_eq` the step from the logarithms of two whole numbers to that of
  their ratio. It misses by one at most, and one comparison decides.
* `RuleFlow.Number.Binary64.ratioLog2_eq` and `RuleFlow.Number.Binary64.Finite.ratioLog10_eq` are
  its two uses.
-/

namespace RuleFlow.Number

variable {num den : Nat}

/-! ### The digits of a whole number -/

theorem digitCountFrom_eq {fuel n : Nat} (h : n < 10 ^ fuel) :
    digitCountFrom fuel n = Nat.log 10 n + 1 := by
  induction fuel generalizing n with
  | zero =>
    obtain rfl : n = 0 := by simpa using h
    simp [digitCountFrom]
  | succ fuel ih =>
    rw [digitCountFrom]
    split_ifs with hsmall
    · rw [Nat.log_of_lt hsmall]
    · have hrest : n / 10 < 10 ^ fuel := by
        rw [Nat.pow_succ] at h
        omega
      have hpos : 0 < Nat.log 10 n := Nat.log_pos (by decide) (Nat.le_of_not_lt hsmall)
      rw [ih hrest, Nat.log_div_base]
      omega

/-- **The number of decimal digits** of a number, zero included. -/
theorem digitCount_eq (n : Nat) : digitCount n = Nat.log 10 n + 1 :=
  digitCountFrom_eq <| Nat.lt_log2_self.trans_le (Nat.pow_le_pow_left (by decide) _)

/-- A number has more digits than a width if it does not fit it. -/
theorem lt_digitCount_iff {precision : Nat} (hprecision : 0 < precision) (m : Nat) :
    precision < digitCount m ↔ ¬m < 10 ^ precision := by
  rw [digitCount_eq, not_lt]
  rcases Nat.eq_zero_or_pos m with rfl | hm
  · simp [Nat.not_lt.mpr hprecision]
  · rw [Nat.lt_add_one_iff, Nat.le_log_iff_pow_le (by decide) hm.ne']

/-- A number that fits a width has no more digits than that. -/
theorem digitCount_le {width : Nat} (hwidth : 0 < width) {n : Nat} (h : n < tenPow width) :
    digitCount n ≤ width :=
  Nat.le_of_not_lt fun hlt => (lt_digitCount_iff hwidth n).mp hlt h

/-! ### The logarithm of a ratio -/

/-- Whether a ratio reaches a power, told without fractions. -/
theorem zpow_le_div_iff {b : Nat} (hb : 0 < b) (num : Nat) (hden : 0 < den) (k : Int) :
    (b : ℚ) ^ k ≤ num / den ↔
      if 0 ≤ k then den * Nat.pow b k.toNat ≤ num else den ≤ num * Nat.pow b (-k).toNat := by
  have hden' : (0 : ℚ) < den := by exact_mod_cast hden
  rw [le_div_iff₀ hden']
  split_ifs with hk
  · obtain ⟨n, rfl⟩ := Int.eq_ofNat_of_zero_le hk
    rw [Int.toNat_natCast, zpow_natCast, mul_comm]
    exact_mod_cast Iff.rfl
  · obtain ⟨n, rfl⟩ : ∃ n : Nat, k = -n := ⟨(-k).toNat, by omega⟩
    have hpow : (0 : ℚ) < (b : ℚ) ^ n := pow_pos (by exact_mod_cast hb) n
    rw [zpow_neg, zpow_natCast, inv_mul_le_iff₀ hpow, mul_comm, neg_neg, Int.toNat_natCast]
    exact_mod_cast Iff.rfl

section Bounds

variable {b : Nat}

/-- A number between two powers of which one follows the other. -/
theorem log_eq_of_between (hb : 1 < b) {r : ℚ} {k : Int} (hlow : (b : ℚ) ^ k ≤ r)
    (hhigh : r < (b : ℚ) ^ (k + 1)) : Int.log b r = k := by
  have hb' : (0 : ℚ) < b := by exact_mod_cast Nat.zero_lt_of_lt hb
  have hr : 0 < r := (zpow_pos hb' k).trans_le hlow
  have habove := (Int.zpow_le_iff_le_log hb hr).mp hlow
  have hbelow := (Int.lt_zpow_iff_log_lt hb hr).mp hhigh
  omega

/-- **The logarithm of a whole multiple of a power.** -/
theorem log_mul_zpow (hb : 1 < b) {n : Nat} (hn : n ≠ 0) (e : Int) :
    Int.log b ((n : ℚ) * (b : ℚ) ^ e) = Nat.log b n + e := by
  have hb' : (0 : ℚ) < b := by exact_mod_cast Nat.zero_lt_of_lt hb
  have hlow : (b : ℚ) ^ Nat.log b n ≤ n := by exact_mod_cast Nat.pow_log_le_self b hn
  have hhigh : (n : ℚ) < (b : ℚ) ^ (Nat.log b n + 1) := by
    exact_mod_cast Nat.lt_pow_succ_log_self hb n
  apply log_eq_of_between hb
  · rw [zpow_add₀ hb'.ne', zpow_natCast]
    gcongr
  · have hexponent : (Nat.log b n : Int) + e + 1 = ((Nat.log b n + 1 : Nat) : Int) + e := by omega
    rw [hexponent, zpow_add₀ hb'.ne', zpow_natCast]
    gcongr

/-- A ratio reaches the power before the difference of the exponents of its terms. -/
theorem zpow_le_div {i j : Nat} (hb : 1 < b) (hden : 0 < den) (hlow : b ^ i ≤ num)
    (hhigh : den < b ^ (j + 1)) : (b : ℚ) ^ ((i : Int) - j - 1) ≤ num / den := by
  have hb' : (0 : ℚ) < b := by exact_mod_cast Nat.zero_lt_of_lt hb
  have hhigh' : (den : ℚ) ≤ (b : ℚ) ^ (j + 1) := by exact_mod_cast hhigh.le
  rw [le_div_iff₀ (by exact_mod_cast hden)]
  calc (b : ℚ) ^ ((i : Int) - j - 1) * den
      ≤ (b : ℚ) ^ ((i : Int) - j - 1) * (b : ℚ) ^ (j + 1) := by gcongr
    _ = (b : ℚ) ^ i := by
        rw [← zpow_natCast, ← zpow_natCast, ← zpow_add₀ hb'.ne']
        congr 1
        omega
    _ ≤ num := by exact_mod_cast hlow

/-- A ratio stays below the power behind the difference of the exponents of its terms. -/
theorem div_lt_zpow {i j : Nat} (hb : 1 < b) (hden : 0 < den) (hhigh : num < b ^ (i + 1))
    (hlow : b ^ j ≤ den) : (num : ℚ) / den < (b : ℚ) ^ ((i : Int) - j + 1) := by
  have hb' : (0 : ℚ) < b := by exact_mod_cast Nat.zero_lt_of_lt hb
  have hlow' : (b : ℚ) ^ j ≤ den := by exact_mod_cast hlow
  rw [div_lt_iff₀ (by exact_mod_cast hden)]
  calc (num : ℚ) < (b : ℚ) ^ (i + 1) := by exact_mod_cast hhigh
    _ = (b : ℚ) ^ ((i : Int) - j + 1) * (b : ℚ) ^ j := by
        rw [← zpow_natCast, ← zpow_natCast, ← zpow_add₀ hb'.ne']
        congr 1
        omega
    _ ≤ (b : ℚ) ^ ((i : Int) - j + 1) * den := by gcongr

/-- **The logarithm of a ratio** is the difference of those of its terms, or one less. -/
theorem log_div_eq (hb : 1 < b) (hnum : 0 < num) (hden : 0 < den) :
    Int.log b ((num : ℚ) / den) =
      if (b : ℚ) ^ ((Nat.log b num : Int) - Nat.log b den) ≤ num / den
      then (Nat.log b num : Int) - Nat.log b den
      else (Nat.log b num : Int) - Nat.log b den - 1 := by
  have hbelow := zpow_le_div hb hden (Nat.pow_log_le_self b hnum.ne')
    (Nat.lt_pow_succ_log_self hb den)
  have habove := div_lt_zpow hb hden (Nat.lt_pow_succ_log_self hb num)
    (Nat.pow_log_le_self b hden.ne')
  split_ifs with hreached
  · exact log_eq_of_between hb hreached habove
  · refine log_eq_of_between hb hbelow ?_
    rw [Int.sub_add_cancel]
    exact not_le.mp hreached

end Bounds

/-- **The exponent of the leading bit** of a ratio. -/
theorem Binary64.ratioLog2_eq (hnum : 0 < num) (hden : 0 < den) :
    ratioLog2 num den = Int.log 2 ((num : ℚ) / den) := by
  have hreached := zpow_le_div_iff (b := 2) (by decide) num hden
    ((Nat.log 2 num : Int) - Nat.log 2 den)
  rw [log_div_eq (b := 2) (by decide) hnum hden]
  simp only [ratioLog2, twoPow, Nat.log2_eq_log_two, hreached]

/-- **The exponent of the leading digit** of a ratio. -/
theorem Binary64.Finite.ratioLog10_eq (hnum : 0 < num) (hden : 0 < den) :
    ratioLog10 num den = Int.log 10 ((num : ℚ) / den) := by
  have hreached := zpow_le_div_iff (b := 10) (by decide) num hden
    ((Nat.log 10 num : Int) - Nat.log 10 den)
  have hcount : (digitCount num : Int) - digitCount den =
      (Nat.log 10 num : Int) - Nat.log 10 den := by
    rw [digitCount_eq, digitCount_eq]
    omega
  rw [log_div_eq (b := 10) (by decide) hnum hden]
  simp only [ratioLog10, tenPow, hcount, hreached]

end RuleFlow.Number
