import Mathlib.Algebra.Order.Round
import Mathlib.Tactic.Linarith
import RuleFlow.Proofs.Number.Rational

/-!
# Rounding to a grid

Both number formats round an exact result once, to the nearest multiple of the unit of its last
place. Two multiples may be equally near, and then a rule chooses: results of arithmetic take the
even multiple, a text with a fixed number of places the one further from zero.

* `RuleFlow.Number.NearestBy` is the nearest whole number under such a rule, and
  `RuleFlow.Number.NearestBy.unique` says that there is one.
* `RuleFlow.Number.Rounding.nearestBy_quotient_halfEven` and
  `RuleFlow.Number.Rounding.nearestBy_quotient_halfUp` tell so of rounded quotients.
* `RuleFlow.Number.RoundsAt` is rounding to a multiple of a power, the even one of two.
-/

namespace RuleFlow.Number

variable {tie : ℤ → Prop} {q q' : ℚ} {n m : ℤ}

/-! ### The nearest whole number -/

/-- **The whole number nearest to a number**, and one that `tie` allows if another is as near. -/
structure NearestBy (tie : ℤ → Prop) (q : ℚ) (n : ℤ) : Prop where
  /-- No whole number is nearer. -/
  near : |q - n| ≤ 1 / 2
  /-- Another that is as near is not chosen. -/
  tie : |q - n| = 1 / 2 → tie n

namespace NearestBy

/-- A whole number is nearest to itself. -/
theorem self (tie : ℤ → Prop) (n : ℤ) : NearestBy tie n n := by
  have hzero : |(n : ℚ) - n| = 0 := by rw [sub_self, abs_zero]
  refine ⟨by rw [hzero]; norm_num, fun h => ?_⟩
  rw [hzero] at h
  norm_num at h

/-- A number that is strictly nearer than a half. -/
theorem of_lt (h : |q - n| < 1 / 2) : NearestBy tie q n :=
  ⟨h.le, fun heq => absurd heq h.ne⟩

/-- **Whole numbers below stay below.** -/
theorem le_of_le (h : NearestBy tie q n) (hm : (m : ℚ) ≤ q) : m ≤ n := by
  by_contra hlt
  have hnext : (n : ℚ) + 1 ≤ m := by exact_mod_cast Int.not_le.mp hlt
  have hfar := (abs_le.mp h.near).2
  linarith

/-- **Whole numbers above stay above.** -/
theorem ge_of_ge (h : NearestBy tie q n) (hm : q ≤ (m : ℚ)) : n ≤ m := by
  by_contra hlt
  have hnext : (m : ℚ) + 1 ≤ n := by exact_mod_cast Int.not_le.mp hlt
  have hfar := (abs_le.mp h.near).1
  linarith

/-- Beyond the middle the next whole number is the nearest. -/
theorem lt_of_lt (h : NearestBy tie q n) (hm : (m : ℚ) + 1 / 2 < q) : m < n := by
  by_contra hle
  have hbelow : (n : ℚ) ≤ m := by exact_mod_cast Int.not_lt.mp hle
  have hfar := (abs_le.mp h.near).2
  linarith

/-- **Up to the middle**, and there as well if it goes to an even number, the nearest whole number is
not the next one. -/
theorem le_of_even (h : NearestBy Even q n) (heven : Even m) (hm : q ≤ (m : ℚ) + 1 / 2) :
    n ≤ m := by
  by_contra hlt
  have hnext : (m : ℚ) + 1 ≤ n := by exact_mod_cast Int.not_le.mp hlt
  have hnear := (abs_le.mp h.near).1
  have hone : (n : ℚ) = m + 1 := by linarith
  have htie : Even n := h.tie (by
    rw [hone, abs_eq (by norm_num)]
    right
    linarith)
  have hodd : n = m + 1 := by exact_mod_cast hone
  rw [hodd, Int.even_add_one] at htie
  exact htie heven

/-- The opposite of the nearest even choice. -/
theorem neg (h : NearestBy Even q n) : NearestBy Even (-q) (-n) := by
  have hdistance : |-q - ((-n : ℤ) : ℚ)| = |q - n| := by
    rw [Int.cast_neg, ← neg_add', abs_neg, sub_eq_add_neg]
  exact ⟨hdistance.trans_le h.near, fun heq => (h.tie (hdistance.symm.trans heq)).neg⟩

/-- **An even number is reached** from half a unit below. -/
theorem lt_iff_of_even (h : NearestBy Even q n) (heven : Even m) : n < m ↔ q + 1 / 2 < m := by
  constructor
  · intro hbelow
    by_contra hclose
    have hreached := h.neg.le_of_even heven.neg (by push_cast; linarith)
    omega
  · intro hfar
    by_contra hmoved
    have hmoved' : (m : ℚ) ≤ n := by exact_mod_cast Int.not_lt.mp hmoved
    have hnear := (abs_le.mp h.near).1
    linarith

/-- **Ties go to one number only**, if the rule does not allow both. -/
theorem unique (h : NearestBy tie q n) (h' : NearestBy tie q m)
    (halone : ∀ k : ℤ, q = k + 1 / 2 → tie k → ¬tie (k + 1)) : n = m := by
  have hup := abs_le.mp h.near
  have hup' := abs_le.mp h'.near
  have hle : n ≤ m + 1 := by
    have : (n : ℚ) ≤ m + 1 := by linarith
    exact_mod_cast this
  have hge : m ≤ n + 1 := by
    have : (m : ℚ) ≤ n + 1 := by linarith
    exact_mod_cast this
  have hties : ∀ {a b : ℤ}, NearestBy tie q a → NearestBy tie q b → b = a + 1 → False := by
    rintro a b ha hb rfl
    have ha' := abs_le.mp ha.near
    have hb' := abs_le.mp hb.near
    push_cast at hb'
    have hmiddle : q = a + 1 / 2 := by linarith
    refine halone a hmiddle (ha.tie ?_) (hb.tie ?_)
    · rw [hmiddle, add_sub_cancel_left, abs_of_pos (by norm_num)]
    · rw [hmiddle, abs_eq (by norm_num)]
      right
      push_cast
      linarith
  by_contra hne
  rcases Int.lt_or_gt_of_ne hne with hlt | hlt
  · exact hties h h' (by omega)
  · exact hties h' h (by omega)

theorem unique_even (h : NearestBy Even q n) (h' : NearestBy Even q m) : n = m :=
  h.unique h' fun k _ hk => by rw [Int.even_add_one]; exact not_not_intro hk

/-- **Two numbers between the same halves** are nearest to the same whole number. -/
theorem congr_between {k : ℤ} (h : NearestBy tie q n) (hlow : (k : ℚ) / 2 < q)
    (hhigh : q < ((k : ℚ) + 1) / 2) (hlow' : (k : ℚ) / 2 < q') (hhigh' : q' < ((k : ℚ) + 1) / 2) :
    NearestBy tie q' n := by
  obtain ⟨hleft, hright⟩ := abs_le.mp h.near
  have hbelow : 2 * n - 1 ≤ k := by
    have : (2 * n - 1 : ℚ) < k + 1 := by linarith
    exact Int.lt_add_one_iff.mp (by exact_mod_cast this)
  have habove : k + 1 ≤ 2 * n + 1 := by
    have : (k : ℚ) < 2 * n + 1 := by linarith
    exact Int.add_one_le_iff.mpr (by exact_mod_cast this)
  have hbelow' : (2 * n - 1 : ℚ) ≤ k := by exact_mod_cast hbelow
  have habove' : (k : ℚ) + 1 ≤ 2 * n + 1 := by exact_mod_cast habove
  exact of_lt (abs_lt.mpr ⟨by linarith, by linarith⟩)

end NearestBy

/-! ### Rounded quotients -/

section Quotients

variable {whole rest den num : Nat} {negative : Bool}

/-- A quotient is its whole part and what is left of it. -/
theorem div_eq_whole_add_rest (num : Nat) (hden : 0 < den) :
    (num : ℚ) / den = (num / den : Nat) + (num % den : Nat) / den := by
  have hden' : (den : ℚ) ≠ 0 := by exact_mod_cast hden.ne'
  have hdivision : (num : ℚ) = den * (num / den : Nat) + (num % den : Nat) := by
    exact_mod_cast (Nat.div_add_mod num den).symm
  rw [div_eq_iff hden', add_mul, div_mul_cancel₀ _ hden', mul_comm _ (den : ℚ)]
  exact hdivision

/-- At most a half is left: the whole part is nearest. -/
theorem nearestBy_whole (hden : 0 < den) (h : 2 * rest ≤ den) (htie : 2 * rest = den → tie whole) :
    NearestBy tie ((whole : ℚ) + rest / den) whole := by
  have hden' : (0 : ℚ) < den := by exact_mod_cast hden
  have hdistance : |(whole : ℚ) + rest / den - ((whole : Nat) : ℤ)| = rest / den := by
    rw [Int.cast_natCast, add_sub_cancel_left, abs_of_nonneg (by positivity)]
  have h' : 2 * (rest : ℚ) ≤ den := by exact_mod_cast h
  refine ⟨?_, fun hhalf => htie ?_⟩
  · rw [hdistance, div_le_iff₀ hden']
    linarith
  · rw [hdistance, div_eq_iff hden'.ne'] at hhalf
    have heq : 2 * (rest : ℚ) = den := by linarith
    exact_mod_cast heq

/-- At least a half is left: the next whole number is nearest. -/
theorem nearestBy_next (hrest : rest < den) (h : den ≤ 2 * rest)
    (htie : 2 * rest = den → tie (whole + 1 : Nat)) :
    NearestBy tie ((whole : ℚ) + rest / den) (whole + 1 : Nat) := by
  have hden' : (0 : ℚ) < den := by exact_mod_cast Nat.zero_lt_of_lt hrest
  have hrest' : (rest : ℚ) / den ≤ 1 :=
    (div_le_one hden').mpr (by exact_mod_cast hrest.le)
  have hdistance : |(whole : ℚ) + rest / den - ((whole + 1 : Nat) : ℤ)| = 1 - rest / den := by
    rw [abs_of_nonpos (by push_cast; linarith)]
    push_cast
    ring
  have h' : (den : ℚ) ≤ 2 * rest := by exact_mod_cast h
  refine ⟨?_, fun hhalf => htie ?_⟩
  · rw [hdistance, sub_le_comm, le_div_iff₀ hden']
    linarith
  · rw [hdistance, sub_eq_iff_eq_add', eq_comm, ← eq_sub_iff_add_eq, div_eq_iff hden'.ne'] at hhalf
    have heq : 2 * (rest : ℚ) = den := by linarith
    exact_mod_cast heq

/-- **A number with fewer digits than places** that are dropped is less than a tenth of a unit. -/
theorem nearestBy_zero {c places : Nat} (h : digitCount c < places) :
    NearestBy tie ((c : ℚ) / 10 ^ places) 0 := by
  have hdigits : c < 10 ^ digitCount c := by
    rw [digitCount_eq]
    exact Nat.lt_pow_succ_log_self (by decide) c
  have hten : 10 * c < 10 ^ places :=
    calc 10 * c < 10 * 10 ^ digitCount c := by omega
      _ = 10 ^ (digitCount c + 1) := by rw [Nat.pow_succ, Nat.mul_comm]
      _ ≤ 10 ^ places := Nat.pow_le_pow_right (by decide) h
  have hten' : 10 * (c : ℚ) < 10 ^ places := by exact_mod_cast hten
  refine NearestBy.of_lt ?_
  rw [Int.cast_zero, sub_zero, abs_of_nonneg (by positivity), div_lt_iff₀ (by positivity)]
  linarith

namespace Rounding

/-- **Rounding half to even** chooses the nearest whole number, the even one of two. -/
theorem nearestBy_quotient_halfEven (negative : Bool) (num : Nat) (hden : 0 < den) :
    NearestBy Even ((num : ℚ) / den) (halfEven.quotient negative num den) := by
  have hrest : num % den < den := Nat.mod_lt num hden
  rw [div_eq_whole_add_rest num hden, quotient]
  by_cases hmoves : movesAway halfEven negative (num / den) (num % den) den = true
  · rw [if_pos hmoves]
    simp only [movesAway, Bool.or_eq_true, Bool.and_eq_true, decide_eq_true_eq, beq_iff_eq] at hmoves
    refine nearestBy_next hrest (by omega) fun htie => ?_
    rw [Int.even_coe_nat, Nat.even_iff]
    omega
  · rw [if_neg hmoves]
    simp only [movesAway, Bool.or_eq_true, Bool.and_eq_true, decide_eq_true_eq, beq_iff_eq] at hmoves
    refine nearestBy_whole hden (by omega) fun htie => ?_
    rw [Int.even_coe_nat, Nat.even_iff]
    omega

/-- **Rounding half up** chooses the nearest whole number, the larger one of two. -/
theorem nearestBy_quotient_halfUp (negative : Bool) (num : Nat) (hden : 0 < den) :
    NearestBy (fun n => (num : ℚ) / den < n) ((num : ℚ) / den)
      (halfUp.quotient negative num den) := by
  have hrest : num % den < den := Nat.mod_lt num hden
  have hden' : (0 : ℚ) < den := by exact_mod_cast hden
  have hless : ((num % den : Nat) : ℚ) / den < 1 :=
    (div_lt_one hden').mpr (by exact_mod_cast hrest)
  rw [div_eq_whole_add_rest num hden, quotient]
  by_cases hmoves : movesAway halfUp negative (num / den) (num % den) den = true
  · rw [if_pos hmoves]
    simp only [movesAway, decide_eq_true_eq] at hmoves
    refine nearestBy_next hrest hmoves fun _ => ?_
    rw [Int.cast_natCast, Nat.cast_succ]
    linarith
  · rw [if_neg hmoves]
    simp only [movesAway, decide_eq_true_eq] at hmoves
    exact nearestBy_whole hden (by omega) fun htie => absurd htie.ge hmoves

end Rounding

end Quotients

/-! ### Places -/

/-- **Rounding at a place**: to the nearest multiple of a power of a base, the even one of two. -/
def RoundsAt (base : ℚ) (place : ℤ) (q v : ℚ) : Prop :=
  ∃ n, NearestBy Even (q / base ^ place) n ∧ v = n * base ^ place

/-- A multiple of a power of a whole base is one of any smaller power. -/
theorem exists_multiple (base : ℚ) {b : ℤ} (hb : base = b) (hbase : base ≠ 0) (n : ℤ)
    {place unit : ℤ} (h : unit ≤ place) : ∃ m : ℤ, (n : ℚ) * base ^ place = m * base ^ unit := by
  obtain ⟨k, rfl⟩ := Int.le.dest h
  refine ⟨n * b ^ k, ?_⟩
  rw [zpow_add₀ hbase, zpow_natCast]
  push_cast
  rw [← hb]
  ring

namespace RoundsAt

variable {base a v : ℚ} {place : ℤ}

/-- **Multiples below stay below.** -/
theorem le_of_le (h : RoundsAt base place q v) (hbase : 0 < base)
    (ha : ∃ m : ℤ, a = m * base ^ place) (hle : a ≤ q) : a ≤ v := by
  obtain ⟨n, hn, rfl⟩ := h
  obtain ⟨m, rfl⟩ := ha
  have hunit : 0 < base ^ place := zpow_pos hbase _
  have hmn : (m : ℚ) ≤ n := by exact_mod_cast hn.le_of_le ((le_div_iff₀ hunit).mpr hle)
  exact mul_le_mul_of_nonneg_right hmn hunit.le

/-- **Multiples above stay above.** -/
theorem ge_of_ge (h : RoundsAt base place q v) (hbase : 0 < base)
    (ha : ∃ m : ℤ, a = m * base ^ place) (hle : q ≤ a) : v ≤ a := by
  obtain ⟨n, hn, rfl⟩ := h
  obtain ⟨m, rfl⟩ := ha
  have hunit : 0 < base ^ place := zpow_pos hbase _
  have hnm : (n : ℚ) ≤ m := by exact_mod_cast hn.ge_of_ge ((div_le_iff₀ hunit).mpr hle)
  exact mul_le_mul_of_nonneg_right hnm hunit.le

end RoundsAt

end RuleFlow.Number
