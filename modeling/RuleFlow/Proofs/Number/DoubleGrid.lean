import RuleFlow.Proofs.Number.Grid
import RuleFlow.Proofs.Number.Nearest

/-!
# Ratios are rounded to doubles

A double has fifty-three bits, so that a ratio is rounded fifty-two places behind its leading bit. A
whole number of fewer bits is a double itself. What is rounded near it stays on its side, and is
moved onto it only from within half a unit of its last place.

* `RuleFlow.Number.Binary64.exists_ofRatio_eq` says which double a ratio is rounded to.
* `RuleFlow.Number.Binary64.Rounds.natCast_le` and its companions: whole numbers below stay below,
  and whole numbers above stay above.
* `RuleFlow.Number.Binary64.Rounds.eq_natCast` and `RuleFlow.Number.Binary64.Rounds.add_unit_le` say
  what is moved onto a whole number from above, and what is not.
-/

namespace RuleFlow.Number.Binary64

variable {num den : Nat} {q v : ℚ}

/-! ### The double of a ratio -/

/-- **The place of the last bit** that a double keeps of a number. -/
def lastPlace (q : ℚ) : ℤ :=
  max (-1074) (Int.log 2 q - 52)

/-- **Rounding to a double**, the range of exponents aside. -/
def Rounds (q v : ℚ) : Prop :=
  RoundsAt 2 (lastPlace q) q v

/-- The mantissa at an exponent is the nearest whole number, the even one of two. -/
theorem nearestBy_mantissaAt (num : Nat) (hden : 0 < den) (exponent : Int) :
    NearestBy Even ((num : ℚ) / den / 2 ^ exponent) (mantissaAt num den exponent) := by
  rw [mantissaAt]
  split_ifs with he
  · obtain ⟨n, rfl⟩ := Int.eq_ofNat_of_zero_le he
    have hround := Rounding.nearestBy_quotient_halfEven false num
      (Nat.mul_pos hden (Nat.two_pow_pos n))
    rw [Nat.cast_mul, Nat.cast_pow, Nat.cast_ofNat, ← div_div] at hround
    exact hround
  · obtain ⟨n, rfl⟩ : ∃ n : Nat, exponent = -n := ⟨(-exponent).toNat, by omega⟩
    have hround := Rounding.nearestBy_quotient_halfEven false (num * twoPow n) hden
    have hunit : ((twoPow n : Nat) : ℚ) = 2 ^ n := by exact_mod_cast rfl
    rw [Nat.cast_mul, hunit, mul_div_right_comm] at hround
    rw [neg_neg, Int.toNat_natCast, zpow_neg, zpow_natCast, div_inv_eq_mul]
    exact hround

/-- **The mantissa of a ratio** has fifty-three bits, or becomes the next power of two. It has fewer
bits at the least exponent only. -/
theorem mantissaAt_bounds (hnum : 0 < num) (hden : 0 < den) :
    mantissaAt num den (lastPlace ((num : ℚ) / den)) ≤ 2 ^ 53 ∧
      (2 ^ 52 ≤ mantissaAt num den (lastPlace ((num : ℚ) / den)) ∨
        lastPlace ((num : ℚ) / den) = -1074) := by
  have hpos : (0 : ℚ) < num / den := by positivity
  have hlow := Int.zpow_log_le_self (b := 2) (by decide) hpos
  have hhigh := Int.lt_zpow_succ_log_self (b := 2) (by decide) ((num : ℚ) / den)
  have hnearest := nearestBy_mantissaAt num hden (lastPlace ((num : ℚ) / den))
  have hunit : (0 : ℚ) < 2 ^ lastPlace ((num : ℚ) / den) := zpow_pos (by norm_num) _
  rw [Nat.cast_ofNat] at hlow hhigh
  constructor
  · have hbelow : (num : ℚ) / den / 2 ^ lastPlace ((num : ℚ) / den) ≤ ((2 ^ 53 : ℤ) : ℚ) := by
      have hpower : ((2 ^ 53 : ℤ) : ℚ) = 2 ^ (53 : ℤ) := by norm_num
      rw [div_le_iff₀ hunit, hpower, ← zpow_add₀ (by norm_num)]
      refine hhigh.le.trans (zpow_le_zpow_right₀ (by norm_num) ?_)
      rw [lastPlace]
      omega
    exact_mod_cast hnearest.ge_of_ge hbelow
  · refine or_iff_not_imp_right.mpr fun hleast => ?_
    have hplace : lastPlace ((num : ℚ) / den) = Int.log 2 ((num : ℚ) / den) - 52 := by
      rw [lastPlace] at hleast ⊢
      omega
    have habove : ((2 ^ 52 : ℤ) : ℚ) ≤ (num : ℚ) / den / 2 ^ lastPlace ((num : ℚ) / den) := by
      have hpower : ((2 ^ 52 : ℤ) : ℚ) = 2 ^ (52 : ℤ) := by norm_num
      rw [le_div_iff₀ hunit, hpower, ← zpow_add₀ (by norm_num)]
      refine (zpow_le_zpow_right₀ (by norm_num) ?_).trans hlow
      omega
    exact_mod_cast hnearest.le_of_le habove

/-- **A ratio is rounded to a double** unless it is beyond the range of doubles. -/
theorem exists_ofRatio_eq (negative : Bool) (hnum : 0 < num) (hden : 0 < den)
    (hrange : (num : ℚ) / den < 2 ^ (1000 : ℤ)) :
    ∃ x : Finite, ofRatio negative num den = .finite x ∧ Rounds ((num : ℚ) / den) x.magnitude := by
  have hpos : (0 : ℚ) < num / den := by positivity
  have hlog : Int.log 2 ((num : ℚ) / den) < 1000 :=
    (Int.lt_zpow_iff_log_lt (b := 2) (by decide) hpos).mp (by exact_mod_cast hrange)
  have hmost : lastPlace ((num : ℚ) / den) ≤ 947 := by
    rw [lastPlace]
    omega
  have hleast : -1074 ≤ lastPlace ((num : ℚ) / den) := le_max_left _ _
  have hnearest := nearestBy_mantissaAt num hden (lastPlace ((num : ℚ) / den))
  obtain ⟨hbits, hfull⟩ := mantissaAt_bounds hnum hden
  rw [ofRatio, if_neg hnum.ne', ratioLog2_eq hnum hden, ← lastPlace]
  dsimp only
  by_cases hcarry : mantissaAt num den (lastPlace ((num : ℚ) / den)) = twoPow 53
  · have hcanonical : Canonical (twoPow 52) (lastPlace ((num : ℚ) / den) + 1) :=
      ⟨by decide, by omega, by omega, .inl le_rfl⟩
    have hpower : ((twoPow 52 : Nat) : ℚ) = 2 ^ 52 := by exact_mod_cast rfl
    have hvalue : (mantissaAt num den (lastPlace ((num : ℚ) / den)) : ℚ) = 2 ^ 53 := by
      rw [hcarry]
      exact_mod_cast rfl
    simp only [if_pos hcarry, dif_pos hcanonical]
    refine ⟨_, rfl, _, hnearest, ?_⟩
    rw [Finite.magnitude, hpower, Int.cast_natCast, hvalue, zpow_add_one₀ (by norm_num)]
    ring
  · have hcanonical : Canonical (mantissaAt num den (lastPlace ((num : ℚ) / den)))
        (lastPlace ((num : ℚ) / den)) :=
      ⟨lt_of_le_of_ne hbits hcarry, hleast, by omega, hfull⟩
    simp only [if_neg hcarry, dif_pos hcanonical]
    exact ⟨_, rfl, _, hnearest, rfl⟩

/-! ### Whole numbers -/

namespace Rounds

variable {a : Nat}

/-- A number of less than fifty-three bits before the point has its last bit behind it. -/
theorem lastPlace_le_zero (hpos : 0 < q) (hq : q < 2 ^ (53 : ℤ)) : lastPlace q ≤ 0 := by
  have hlog : Int.log 2 q < 53 :=
    (Int.lt_zpow_iff_log_lt (b := 2) (by decide) hpos).mp (by exact_mod_cast hq)
  rw [lastPlace]
  omega

theorem exists_multiple_natCast (a : Nat) {place : ℤ} (h : place ≤ 0) :
    ∃ m : ℤ, (a : ℚ) = m * 2 ^ place := by
  obtain ⟨m, hm⟩ := exists_multiple 2 (b := 2) (by norm_num) (by norm_num) a h
  exact ⟨m, by simpa using hm⟩

/-- **Whole numbers below stay below.** -/
theorem natCast_le (h : Rounds q v) (hpos : 0 < q) (hq : q < 2 ^ (53 : ℤ)) (ha : (a : ℚ) ≤ q) :
    (a : ℚ) ≤ v :=
  RoundsAt.le_of_le h (by norm_num) (exists_multiple_natCast a (lastPlace_le_zero hpos hq)) ha

/-- **Whole numbers above stay above.** -/
theorem le_natCast (h : Rounds q v) (hpos : 0 < q) (hq : q < 2 ^ (53 : ℤ)) (ha : q ≤ (a : ℚ)) :
    v ≤ (a : ℚ) :=
  RoundsAt.ge_of_ge h (by norm_num) (exists_multiple_natCast a (lastPlace_le_zero hpos hq)) ha

/-- **Powers of two below stay below.** -/
theorem zpow_le {j : ℤ} (h : Rounds q v) (hj : (2 : ℚ) ^ j ≤ q) (hleast : -1022 ≤ j) :
    (2 : ℚ) ^ j ≤ v := by
  have hpos : 0 < q := (zpow_pos (by norm_num) j).trans_le hj
  have hlog : j ≤ Int.log 2 q := (Int.zpow_le_iff_le_log (b := 2) (by decide) hpos).mp
    (by exact_mod_cast hj)
  have hlow := Int.zpow_log_le_self (b := 2) (by decide) hpos
  rw [Nat.cast_ofNat] at hlow
  have hmultiple := exists_multiple 2 (b := 2) (by norm_num) (by norm_num) 1
    (show lastPlace q ≤ Int.log 2 q by rw [lastPlace]; omega)
  rw [Int.cast_one, one_mul] at hmultiple
  calc (2 : ℚ) ^ j ≤ 2 ^ Int.log 2 q := zpow_le_zpow_right₀ (by norm_num) hlog
    _ ≤ v := RoundsAt.le_of_le h (by norm_num) hmultiple hlow

/-- The last bit of a whole number of fewer than fifty-three bits is zero. -/
theorem exists_even_multiple (ha : a ≠ 0) (hshort : a < 2 ^ 52) :
    ∃ m : ℤ, Even m ∧ (a : ℚ) = m * 2 ^ (Nat.log 2 a - 52 : ℤ) := by
  have hlog : Nat.log 2 a < 52 := Nat.log_lt_of_lt_pow ha hshort
  obtain ⟨m, hm⟩ := exists_multiple_natCast a (show (Nat.log 2 a - 52 + 1 : ℤ) ≤ 0 by omega)
  refine ⟨2 * m, even_two_mul m, ?_⟩
  rw [hm, zpow_add_one₀ (by norm_num)]
  push_cast
  ring

/-- Half a unit of the last place. -/
theorem unit_eq_half_mul_two (k : Nat) : (2 : ℚ) ^ (k - 52 : ℤ) = 2 ^ (k - 53 : ℤ) * 2 := by
  rw [← zpow_add_one₀ (by norm_num)]
  congr 1
  omega

section Above

variable (ha : a ≠ 0) (hshort : a < 2 ^ 52) (hle : (a : ℚ) ≤ q)
include ha hle

/-- Between a whole number and the next power of two the last bit stands fifty-two places behind the
leading one of the whole number. -/
theorem lastPlace_eq (hq : q < 2 ^ (Nat.log 2 a + 1 : ℤ)) : lastPlace q = Nat.log 2 a - 52 := by
  have hlow : (2 : ℚ) ^ (Nat.log 2 a : ℤ) ≤ q := by
    rw [zpow_natCast]
    exact le_trans (by exact_mod_cast Nat.pow_log_le_self 2 ha) hle
  have hlog : Int.log 2 q = Nat.log 2 a :=
    log_eq_of_between (b := 2) (by decide) (by exact_mod_cast hlow) (by exact_mod_cast hq)
  rw [lastPlace, hlog]
  omega

include hshort

/-- **Within half a unit** of the last place above a whole number, it is what is rounded to. -/
theorem eq_natCast (h : Rounds q v) (hnear : q ≤ a + 2 ^ (Nat.log 2 a - 53 : ℤ)) : v = a := by
  have hlog : Nat.log 2 a < 52 := Nat.log_lt_of_lt_pow ha hshort
  have hnext : (a : ℚ) + 1 ≤ 2 ^ (Nat.log 2 a + 1 : ℤ) := by
    exact_mod_cast Nat.lt_pow_succ_log_self (by decide) a
  have hhalf : (2 : ℚ) ^ (Nat.log 2 a - 53 : ℤ) < 1 :=
    zpow_lt_one_of_neg₀ (by norm_num) (by omega)
  have hplace := lastPlace_eq ha hle (by linarith)
  have hunit : (0 : ℚ) < 2 ^ (Nat.log 2 a - 52 : ℤ) := zpow_pos (by norm_num) _
  have hmiddle := unit_eq_half_mul_two (Nat.log 2 a)
  obtain ⟨n, hn, rfl⟩ := h
  obtain ⟨m, heven, hm⟩ := exists_even_multiple ha hshort
  rw [hplace] at hn ⊢
  have hbelow : n ≤ m := hn.le_of_even heven (by
    rw [div_le_iff₀ hunit]
    linarith)
  have habove : m ≤ n := hn.le_of_le (by
    rw [le_div_iff₀ hunit]
    linarith)
  rw [hm, le_antisymm hbelow habove]

/-- **Further above** it is not. -/
theorem add_unit_le (h : Rounds q v) (hfar : a + 2 ^ (Nat.log 2 a - 53 : ℤ) < q) :
    (a : ℚ) + 2 ^ (Nat.log 2 a - 52 : ℤ) ≤ v := by
  have hlog : Nat.log 2 a < 52 := Nat.log_lt_of_lt_pow ha hshort
  have hunit : (0 : ℚ) < 2 ^ (Nat.log 2 a - 52 : ℤ) := zpow_pos (by norm_num) _
  by_cases hq : q < 2 ^ (Nat.log 2 a + 1 : ℤ)
  · have hplace := lastPlace_eq ha hle hq
    have hmiddle := unit_eq_half_mul_two (Nat.log 2 a)
    obtain ⟨n, hn, rfl⟩ := h
    obtain ⟨m, -, hm⟩ := exists_even_multiple ha hshort
    rw [hplace] at hn ⊢
    have hbeyond : m < n := hn.lt_of_lt (by
      rw [lt_div_iff₀ hunit]
      linarith)
    have hnext : (m : ℚ) + 1 ≤ n := by exact_mod_cast hbeyond
    rw [hm]
    calc (m : ℚ) * 2 ^ (Nat.log 2 a - 52 : ℤ) + 2 ^ (Nat.log 2 a - 52 : ℤ)
        = (m + 1) * 2 ^ (Nat.log 2 a - 52 : ℤ) := by ring
      _ ≤ n * 2 ^ (Nat.log 2 a - 52 : ℤ) := by gcongr
  · -- Beyond the next power of two, that power is below the result.
    have hnext : (a : ℚ) + 1 ≤ 2 ^ (Nat.log 2 a + 1 : ℤ) := by
      exact_mod_cast Nat.lt_pow_succ_log_self (by decide) a
    have hpower := zpow_le h (not_lt.mp hq) (by omega)
    have hone : (2 : ℚ) ^ (Nat.log 2 a - 52 : ℤ) ≤ 1 :=
      zpow_le_one_of_nonpos₀ (by norm_num) (by omega)
    linarith

end Above

end Rounds

end RuleFlow.Number.Binary64
