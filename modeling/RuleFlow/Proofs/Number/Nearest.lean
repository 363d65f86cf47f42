import RuleFlow.Proofs.Number.Rational

/-!
# The double nearest to a number

A number is given to be rounded as a ratio of whole numbers, or as digits and an exponent. The
double that it is rounded to does not depend on how it is written, and a double that is written out
exactly is rounded to itself.

* `RuleFlow.Number.Rounding.quotient_congr` is the law of rounded quotients behind it.
* `RuleFlow.Number.Binary64.ofRatio_congr` and `RuleFlow.Number.Binary64.ofRatio_ratio` are the two
  facts about ratios.
* `RuleFlow.Number.Binary64.ofScientific_congr` and
  `RuleFlow.Number.Binary64.ofScientific_of_magnitude_eq` are the same facts about digits and
  exponents.
-/

namespace RuleFlow.Number

variable {num num' den den' : Nat}

/-! ### Rounded quotients -/

namespace Rounding

variable (rule : Rounding) (negative : Bool)

/-- A quotient is rounded alike in any unit. -/
theorem quotient_mul_mul (num den : Nat) {unit : Nat} (hunit : 0 < unit) :
    rule.quotient negative (num * unit) (den * unit) = rule.quotient negative num den := by
  have hmoves : movesAway rule negative (num / den) (num % den * unit) (den * unit) =
      movesAway rule negative (num / den) (num % den) den := by
    have hdouble : 2 * (num % den * unit) = 2 * (num % den) * unit := (Nat.mul_assoc ..).symm
    have hbeq : ∀ a b : Nat, (a * unit == b * unit) = (a == b) := fun a b => by
      rw [Bool.eq_iff_iff, beq_iff_eq, beq_iff_eq, Nat.mul_left_inj hunit.ne']
    have hzero : (num % den * unit != 0) = (num % den != 0) := by
      simpa [bne] using hbeq (num % den) 0
    cases rule <;>
      simp only [movesAway, hdouble, hbeq, hzero, Nat.mul_lt_mul_right hunit,
        Nat.mul_le_mul_right_iff hunit]
  rw [quotient, quotient, Nat.mul_div_mul_right _ _ hunit, Nat.mul_mod_mul_right, hmoves]

/-- **A rounded quotient depends on the ratio alone.** -/
theorem quotient_congr (hden : 0 < den) (hden' : 0 < den') (h : num * den' = num' * den) :
    rule.quotient negative num den = rule.quotient negative num' den' := by
  rw [← quotient_mul_mul rule negative num den hden',
    ← quotient_mul_mul rule negative num' den' hden, h, Nat.mul_comm den den']

end Rounding

namespace Binary64

/-! ### Ratios -/

theorem mantissaAt_congr (hden : 0 < den) (hden' : 0 < den') (h : num * den' = num' * den)
    (e : Int) : mantissaAt num den e = mantissaAt num' den' e := by
  rw [mantissaAt, mantissaAt]
  split_ifs
  · have hpow : 0 < twoPow e.toNat := Nat.two_pow_pos _
    refine Rounding.quotient_congr _ _ (Nat.mul_pos hden hpow) (Nat.mul_pos hden' hpow) ?_
    rw [← Nat.mul_assoc, ← Nat.mul_assoc, h]
  · refine Rounding.quotient_congr _ _ hden hden' ?_
    rw [Nat.mul_right_comm, h, Nat.mul_right_comm]

/-- **The double nearest to a ratio** depends on the ratio alone. -/
theorem ofRatio_congr (negative : Bool) (hden : 0 < den) (hden' : 0 < den')
    (h : (num : ℚ) / den = num' / den') :
    ofRatio negative num den = ofRatio negative num' den' := by
  have hcross : num * den' = num' * den := by
    rw [div_eq_div_iff (by exact_mod_cast hden.ne') (by exact_mod_cast hden'.ne')] at h
    exact_mod_cast h
  rw [ofRatio, ofRatio]
  by_cases hnum : num = 0
  · obtain rfl : num' = 0 := by simpa [hnum, hden.ne'] using hcross.symm
    rw [if_pos hnum, if_pos rfl]
  · have hnum' : num' ≠ 0 := by
      rintro rfl
      simp [hnum, hden'.ne'] at hcross
    have hlog : ratioLog2 num den = ratioLog2 num' den' := by
      rw [ratioLog2_eq (Nat.pos_of_ne_zero hnum) hden,
        ratioLog2_eq (Nat.pos_of_ne_zero hnum') hden', h]
    rw [if_neg hnum, if_neg hnum', hlog]
    simp only [mantissaAt_congr hden hden' hcross]

namespace Finite

variable (x : Finite)

theorem ratio_snd_pos : 0 < x.ratio.2 := by
  rw [ratio]
  split_ifs
  · exact Nat.one_pos
  · exact Nat.two_pow_pos _

theorem ratio_fst_pos (h : x.mantissa ≠ 0) : 0 < x.ratio.1 := by
  rw [ratio]
  split_ifs
  · exact Nat.mul_pos (Nat.pos_of_ne_zero h) (Nat.two_pow_pos _)
  · exact Nat.pos_of_ne_zero h

/-- The ratio of a double is its magnitude. -/
theorem ratio_fst_div_snd : (x.ratio.1 : ℚ) / x.ratio.2 = x.magnitude := by
  rw [ratio, magnitude]
  split_ifs with he
  · obtain ⟨n, hn⟩ := Int.eq_ofNat_of_zero_le he
    simp [hn, twoPow]
  · obtain ⟨n, hn⟩ : ∃ n : Nat, x.exponent = -n := ⟨(-x.exponent).toNat, by omega⟩
    simp [hn, twoPow, div_eq_mul_inv]

/-- The ratio of a double, rounded at the exponent of the double, is the mantissa. -/
theorem mantissaAt_ratio : mantissaAt x.ratio.1 x.ratio.2 x.exponent = x.mantissa := by
  rw [mantissaAt, ratio]
  split_ifs with he
  · rw [Nat.one_mul]
    exact Rounding.quotient_mul_right _ _ _ (Nat.two_pow_pos _)
  · exact Rounding.quotient_mul_right _ _ _ (Nat.two_pow_pos _)

/-- A double that is a zero is the one of its sign. -/
theorem eq_zero_of_mantissa (h : x.mantissa = 0) : Binary64.zero x.negative = .finite x := by
  obtain ⟨negative, mantissa, exponent, hcanonical⟩ := x
  obtain rfl : mantissa = 0 := h
  obtain rfl : exponent = -1074 := by
    rcases hcanonical.2.2.2 with hfull | hleast
    · exact absurd hfull (by decide)
    · exact hleast
  rfl

/-- **The exponent of a double** is that of its leading bit, fifty-two places further, or the least
one. -/
theorem max_ratioLog2_eq (h : x.mantissa ≠ 0) :
    max (-1074) (ratioLog2 x.ratio.1 x.ratio.2 - 52) = x.exponent := by
  have hlog := log_mul_zpow (b := 2) (by decide) h x.exponent
  rw [Nat.cast_ofNat] at hlog
  rw [ratioLog2_eq (x.ratio_fst_pos h) x.ratio_snd_pos, ratio_fst_div_snd, magnitude, hlog]
  obtain ⟨hbits, hleast, -, hfull⟩ := x.canonical
  have hupper : Nat.log 2 x.mantissa < 53 := Nat.log_lt_of_lt_pow h hbits
  rcases hfull with hfull | hleast'
  · have hlower : 52 ≤ Nat.log 2 x.mantissa := Nat.le_log_of_pow_le (by decide) hfull
    omega
  · omega

end Finite

/-- **A double is nearest to itself.** -/
theorem ofRatio_ratio (x : Finite) : ofRatio x.negative x.ratio.1 x.ratio.2 = .finite x := by
  by_cases hzero : x.mantissa = 0
  · have hnum : x.ratio.1 = 0 := by
      rw [Finite.ratio]
      split_ifs <;> simp [hzero]
    rw [ofRatio, if_pos hnum, x.eq_zero_of_mantissa hzero]
  · have hbits : x.mantissa ≠ twoPow 53 := x.canonical.1.ne
    rw [ofRatio, if_neg (x.ratio_fst_pos hzero).ne']
    simp only [x.max_ratioLog2_eq hzero, x.mantissaAt_ratio, if_neg hbits, dif_pos x.canonical]

/-- **A double is known by its sign and its magnitude.** -/
theorem Finite.eq_of_magnitude_eq {x y : Finite} (hnegative : x.negative = y.negative)
    (h : x.magnitude = y.magnitude) : x = y := by
  have hratio := x.ratio_fst_div_snd.trans (h.trans y.ratio_fst_div_snd.symm)
  have hofRatio := ofRatio_congr y.negative x.ratio_snd_pos y.ratio_snd_pos hratio
  rw [ofRatio_ratio y, ← hnegative, ofRatio_ratio x] at hofRatio
  exact finite.inj hofRatio

/-! ### Digits and exponents -/

open Decimal (adjusted)

/-- Within the range of doubles, digits and an exponent are rounded as a ratio. -/
theorem exists_ofScientific_eq (negative : Bool) {c : Nat} {e : Int} (hc : c ≠ 0)
    (hlow : -400 ≤ adjusted c e) (hhigh : adjusted c e ≤ 400) :
    ∃ num den : Nat, 0 < den ∧ (num : ℚ) / den = Decimal.magnitude c e ∧
      ofScientific negative c e = ofRatio negative num den := by
  rw [ofScientific, if_neg hc, if_neg (Int.not_lt.mpr hhigh), if_neg (Int.not_lt.mpr hlow),
    Decimal.magnitude]
  split_ifs with he
  · obtain ⟨n, rfl⟩ := Int.eq_ofNat_of_zero_le he
    exact ⟨_, 1, Nat.one_pos, by simp, rfl⟩
  · obtain ⟨n, rfl⟩ : ∃ n : Nat, e = -n := ⟨(-e).toNat, by omega⟩
    exact ⟨c, _, Nat.pow_pos (by decide), by simp [div_eq_mul_inv], rfl⟩

/-- **The double nearest to digits with an exponent** depends on their number alone. -/
theorem ofScientific_congr (negative : Bool) {c c' : Nat} {e e' : Int}
    (h : Decimal.magnitude c e = Decimal.magnitude c' e') :
    ofScientific negative c e = ofScientific negative c' e' := by
  have hzero : c = 0 ↔ c' = 0 := by
    rw [← Decimal.magnitude_eq_zero (e := e), h, Decimal.magnitude_eq_zero]
  by_cases hc : c = 0
  · rw [ofScientific, ofScientific, if_pos hc, if_pos (hzero.mp hc)]
  · have hc' : c' ≠ 0 := mt hzero.mpr hc
    have hadjusted : adjusted c e = adjusted c' e' := by
      rw [Decimal.adjusted_eq hc, Decimal.adjusted_eq hc', h]
    by_cases hrange : -400 ≤ adjusted c e ∧ adjusted c e ≤ 400
    · obtain ⟨num, den, hden, hratio, heq⟩ := exists_ofScientific_eq negative hc hrange.1 hrange.2
      obtain ⟨num', den', hden', hratio', heq'⟩ :=
        exists_ofScientific_eq negative hc' (hadjusted ▸ hrange.1) (hadjusted ▸ hrange.2)
      rw [heq, heq', ofRatio_congr negative hden hden' (hratio.trans (h.trans hratio'.symm))]
    · rw [ofScientific, ofScientific, if_neg hc, if_neg hc', ← hadjusted]
      by_cases hbeyond : 400 < adjusted c e
      · rw [if_pos hbeyond, if_pos hbeyond]
      · have hbelow : adjusted c e < -400 := by omega
        rw [if_neg hbeyond, if_neg hbeyond, if_pos hbelow, if_pos hbelow]

/-- **Doubles lie within the range** that is written out. -/
theorem Finite.log_magnitude (x : Finite) (h : x.mantissa ≠ 0) :
    -400 ≤ Int.log 10 x.magnitude ∧ Int.log 10 x.magnitude ≤ 308 := by
  obtain ⟨hbits, hleast, hmost, -⟩ := x.canonical
  have hsome : (1 : ℚ) ≤ x.mantissa := by exact_mod_cast Nat.pos_of_ne_zero h
  have hbits' : (x.mantissa : ℚ) ≤ 2 ^ 53 := by exact_mod_cast hbits.le
  have hleastPower : 2 ^ 1074 ≤ 10 ^ 400 := by decide +kernel
  have hmostPower : 2 ^ 53 * 2 ^ 971 < 10 ^ 309 := by decide +kernel
  have hlow : (10 : ℚ) ^ (-400 : Int) ≤ x.magnitude :=
    calc (10 : ℚ) ^ (-400 : Int) ≤ 1 * 2 ^ (-1074 : Int) := by
          rw [one_mul, zpow_neg, zpow_neg, inv_le_inv₀ (by positivity) (by positivity)]
          exact_mod_cast hleastPower
      _ ≤ x.mantissa * 2 ^ x.exponent := by
          gcongr
          norm_num
  have hhigh : x.magnitude < (10 : ℚ) ^ (309 : Int) :=
    calc (x.mantissa : ℚ) * 2 ^ x.exponent ≤ 2 ^ 53 * 2 ^ (971 : Int) := by
          gcongr
          norm_num
      _ < (10 : ℚ) ^ (309 : Int) := by
          rw [zpow_ofNat, zpow_ofNat]
          exact_mod_cast hmostPower
  have hpos : 0 < x.magnitude := (zpow_pos (by norm_num) _).trans_le hlow
  constructor
  · rw [← Int.zpow_le_iff_le_log (by decide) hpos]
    simpa only [Nat.cast_ofNat] using hlow
  · have hbelow : Int.log 10 x.magnitude < 309 := by
      rw [← Int.lt_zpow_iff_log_lt (by decide) hpos]
      simpa only [Nat.cast_ofNat] using hhigh
    omega

/-- **Digits that write a double exactly** are rounded to it. -/
theorem ofScientific_of_magnitude_eq {x : Finite} {c : Nat} {e : Int}
    (h : Decimal.magnitude c e = x.magnitude) : ofScientific x.negative c e = .finite x := by
  have hzero : c = 0 ↔ x.mantissa = 0 := by
    rw [← Decimal.magnitude_eq_zero (e := e), h, Finite.magnitude_eq_zero]
  by_cases hc : c = 0
  · rw [ofScientific, if_pos hc, x.eq_zero_of_mantissa (hzero.mp hc)]
  · have hlog := x.log_magnitude (mt hzero.mpr hc)
    rw [← h, ← Decimal.adjusted_eq hc] at hlog
    obtain ⟨num, den, hden, hratio, heq⟩ :=
      exists_ofScientific_eq x.negative hc hlog.1 (by omega)
    rw [heq, ← ofRatio_ratio x]
    exact ofRatio_congr _ hden x.ratio_snd_pos (hratio.trans (h.trans x.ratio_fst_div_snd.symm))

end Binary64

end RuleFlow.Number
