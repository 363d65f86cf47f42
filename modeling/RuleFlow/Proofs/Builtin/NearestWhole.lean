import Mathlib.Data.Rat.Floor
import RuleFlow.Builtin.Basic
import RuleFlow.Proofs.Number.Finite
import RuleFlow.Proofs.Number.Sum
import RuleFlow.Proofs.Value.FiniteNumber

/-!
# The nearest whole number

A number is rounded to a whole one by adding a half and dropping what is behind the point, so that
halves go up. The sum is rounded to the digits of the context before anything is dropped. Where that
moves it onto a whole number or beyond, the result is not the nearest whole number.

* `RuleFlow.Number.Decimal.toRat_roundToWhole_floor`: rounding down is exact for every number.
* `RuleFlow.Number.KeepsWhole` says when rounding at a place keeps the whole part of a number, and
  `RuleFlow.Number.RoundsAt.floor_eq_iff` that it does.
* `RuleFlow.OnNumber.round_nearest_iff` is the result, `RuleFlow.OnNumber.round_of_whole` the case of
  whole numbers that leave a digit for the half.
-/

namespace RuleFlow

namespace Number

/-! ### Whole parts -/

/-- **Rounding down** a quotient gives the whole part of the signed number. -/
theorem Rounding.floor_quotient (negative : Bool) (num : Nat) {den : Nat} (hden : 0 < den) :
    withSign negative (floor.quotient negative num den) = ⌊withSign negative ((num : ℚ) / den)⌋ := by
  have hden' : (0 : ℚ) < den := by exact_mod_cast hden
  have hless : ((num % den : Nat) : ℚ) / den < 1 :=
    (div_lt_one hden').mpr (by exact_mod_cast Nat.mod_lt num hden)
  have hrest : 0 ≤ ((num % den : Nat) : ℚ) / den := by positivity
  rw [div_eq_whole_add_rest num hden, quotient, movesAway]
  generalize num / den = whole
  generalize num % den = rest at hless hrest
  cases negative with
  | false =>
    have hfloor : ⌊(whole : ℚ) + rest / den⌋ = (whole : ℤ) := by
      rw [Int.floor_eq_iff, Int.cast_natCast]
      exact ⟨by linarith, by linarith⟩
    rw [Bool.false_and, if_neg Bool.false_ne_true, withSign, if_neg Bool.false_ne_true, withSign,
      if_neg Bool.false_ne_true, hfloor, Int.cast_natCast]
  | true =>
    rw [Bool.true_and, withSign, if_pos rfl, withSign, if_pos rfl]
    by_cases hexact : rest = 0
    · have hfloor : ⌊-((whole : ℚ) + rest / den)⌋ = -(whole : ℤ) := by
        rw [hexact, Nat.cast_zero, zero_div, add_zero, Int.floor_neg, Int.ceil_natCast]
      rw [if_neg (by simp [hexact]), hfloor, Int.cast_neg, Int.cast_natCast]
    · have hsome : 0 < (rest : ℚ) / den :=
        div_pos (by exact_mod_cast Nat.pos_of_ne_zero hexact) hden'
      have hfloor : ⌊-((whole : ℚ) + rest / den)⌋ = -((whole + 1 : Nat) : ℤ) := by
        rw [Int.floor_eq_iff]
        push_cast
        exact ⟨by linarith, by linarith⟩
      rw [if_pos (by simp [hexact]), hfloor, Int.cast_neg, Int.cast_natCast]

namespace Decimal

/-- A fraction is rounded down as a quotient. -/
theorem roundToWhole_floor_of_neg (n : Bool) (c : Nat) {e : Int} (he : e < 0) :
    roundToWhole .floor (.finite n c e) =
      .finite n (Rounding.floor.quotient n c (tenPow (-e).toNat)) 0 := by
  rw [roundToWhole, if_neg (Int.not_le.mpr he)]
  by_cases hzero : c = 0
  · subst hzero
    simp [Rounding.quotient, Rounding.movesAway]
  rw [if_neg hzero]
  by_cases hsmall : (digitCount c : Int) + e < 0
  · -- A number with no digit before the point is less than one.
    have hdigits : c < 10 ^ digitCount c := by
      rw [digitCount_eq]
      exact Nat.lt_pow_succ_log_self (by decide) c
    have hless : c < tenPow (-e).toNat :=
      hdigits.trans_le (Nat.pow_le_pow_right (by decide) (by omega))
    rw [if_pos hsmall, Rounding.quotient, Nat.div_eq_of_lt hless, Nat.mod_eq_of_lt hless]
    simp [Rounding.movesAway, hzero]
  · rw [if_neg hsmall]

/-- **Rounding down to a whole number** is exact, however many digits a number has. -/
theorem toRat_roundToWhole_floor {d : Decimal} (hd : d.isFinite = true) :
    (roundToWhole .floor d).toRat = ⌊d.toRat⌋ := by
  cases d with
  | finite n c e =>
    rcases Int.lt_or_le e 0 with hneg | hpos
    · have hden : 0 < tenPow (-e).toNat := Nat.pow_pos (by decide)
      have hmagnitude : magnitude c e = (c : ℚ) / (tenPow (-e).toNat : Nat) := by
        obtain ⟨k, rfl⟩ : ∃ k : Nat, e = -k := ⟨(-e).toNat, by omega⟩
        rw [magnitude, zpow_neg, zpow_natCast, neg_neg, Int.toNat_natCast, ← div_eq_mul_inv]
        exact_mod_cast rfl
      have hwhole : ∀ k : Nat, magnitude k 0 = k := fun k => by rw [magnitude, zpow_zero, mul_one]
      rw [roundToWhole_floor_of_neg n c hneg, toRat, toRat, hwhole, hmagnitude]
      exact Rounding.floor_quotient n c hden
    · obtain ⟨k, rfl⟩ := Int.eq_ofNat_of_zero_le hpos
      have hwhole : (finite n c k).toRat = ((signed n (c * 10 ^ k) : ℤ) : ℚ) := by
        rw [toRat, magnitude, zpow_natCast, withSign, signed]
        split_ifs
        · push_cast
          rfl
        · push_cast
          rfl
      rw [roundToWhole, if_pos hpos, hwhole, Int.floor_intCast]
  | _ => cases hd

end Decimal

/-! ### Rounding at a place -/

/-- **Rounding at a place keeps the whole part** of a number. With digits behind the point it does
so unless the number is so near below the next whole one that it is moved there. At the last digit
before the point it rounds itself to a whole number; further to the left it rounds the whole part as
well, which has to be a multiple already. -/
def KeepsWhole (place : ℤ) (q : ℚ) : Prop :=
  if place < 0 then 10 ^ place < 2 * (1 - Int.fract q)
  else if place = 0 then Int.fract q < 1 / 2 ∨ Int.fract q = 1 / 2 ∧ Even ⌊q⌋
  else ∃ m : ℤ, (⌊q⌋ : ℚ) = m * 10 ^ place

theorem floor_eq_floor_iff {q v : ℚ} (h : (⌊q⌋ : ℚ) ≤ v) : ⌊v⌋ = ⌊q⌋ ↔ v < ⌊q⌋ + 1 := by
  rw [Int.floor_eq_iff]
  exact and_iff_right h

namespace RoundsAt

variable {q v : ℚ} {place : ℤ}

/-- Rounding at a place behind the point. -/
theorem floor_eq_iff_of_neg (h : RoundsAt 10 place q v) (hplace : place < 0) :
    ⌊v⌋ = ⌊q⌋ ↔ (10 : ℚ) ^ place < 2 * (1 - Int.fract q) := by
  obtain ⟨n, hn, rfl⟩ := h
  obtain ⟨k, rfl⟩ : ∃ k : Nat, place = -(k + 1) := ⟨(-place - 1).toNat, by omega⟩
  have hunit : (0 : ℚ) < 10 ^ (-((k : ℤ) + 1)) := zpow_pos (by norm_num) _
  have hfract := Int.self_sub_floor q
  -- Whole numbers are multiples of the unit, and even ones.
  have hmultiple : ∀ m : ℤ,
      (m : ℚ) / 10 ^ (-((k : ℤ) + 1)) = ((m * 10 ^ (k + 1) : ℤ) : ℚ) := fun m => by
    rw [zpow_neg, div_inv_eq_mul]
    push_cast
    exact_mod_cast rfl
  have heven : Even ((⌊q⌋ + 1) * 10 ^ (k + 1)) :=
    (Int.even_pow.mpr ⟨by decide, Nat.succ_ne_zero k⟩).mul_left _
  have hlow : ⌊q⌋ * 10 ^ (k + 1) ≤ n := by
    refine hn.le_of_le ?_
    rw [← hmultiple]
    exact div_le_div_of_nonneg_right (Int.floor_le q) hunit.le
  have hfloor : (⌊q⌋ : ℚ) ≤ n * 10 ^ (-((k : ℤ) + 1)) := by
    rw [← div_le_iff₀ hunit, hmultiple]
    exact_mod_cast hlow
  rw [floor_eq_floor_iff hfloor, ← lt_div_iff₀ hunit]
  have hnext := hmultiple (⌊q⌋ + 1)
  rw [Int.cast_add, Int.cast_one] at hnext
  rw [hnext, Int.cast_lt]
  rw [hn.lt_iff_of_even heven, ← hnext, lt_div_iff₀ hunit, add_mul, div_mul_cancel₀ _ hunit.ne']
  constructor
  · intro h
    linarith
  · intro h
    linarith

/-- Rounding at the last digit before the point. -/
theorem floor_eq_iff_of_zero (h : RoundsAt 10 0 q v) :
    ⌊v⌋ = ⌊q⌋ ↔ Int.fract q < 1 / 2 ∨ Int.fract q = 1 / 2 ∧ Even ⌊q⌋ := by
  obtain ⟨n, hn, rfl⟩ := h
  rw [zpow_zero, div_one] at hn
  rw [zpow_zero, mul_one, Int.floor_intCast]
  have hfract := Int.self_sub_floor q
  constructor
  · rintro rfl
    have hnear := hn.near
    rw [hfract, Int.abs_fract] at hnear
    refine hnear.lt_or_eq.imp_right fun htie => ⟨htie, hn.tie ?_⟩
    rw [hfract, Int.abs_fract, htie]
  · intro hkeeps
    refine le_antisymm ?_ (hn.le_of_le (Int.floor_le q))
    rcases hkeeps with hless | ⟨htie, heven⟩
    · by_contra hmoved
      have hnext : (⌊q⌋ : ℚ) + 1 ≤ n := by exact_mod_cast Int.not_le.mp hmoved
      have hfar := (abs_le.mp hn.near).1
      linarith
    · exact hn.le_of_even heven (by linarith)

/-- Rounding further to the left. -/
theorem floor_eq_iff_of_pos (h : RoundsAt 10 place q v) (hplace : 0 < place) :
    ⌊v⌋ = ⌊q⌋ ↔ ∃ m : ℤ, (⌊q⌋ : ℚ) = m * 10 ^ place := by
  obtain ⟨n, hn, rfl⟩ := h
  obtain ⟨k, rfl⟩ : ∃ k : Nat, place = k + 1 := ⟨(place - 1).toNat, by omega⟩
  have hunit : (0 : ℚ) < 10 ^ ((k : ℤ) + 1) := zpow_pos (by norm_num) _
  have hwhole : ∀ m : ℤ, ⌊(m : ℚ) * 10 ^ ((k : ℤ) + 1)⌋ = m * 10 ^ (k + 1) := fun m => by
    rw [← Int.floor_intCast (R := ℚ) (m * 10 ^ (k + 1))]
    push_cast
    rfl
  constructor
  · intro hfloor
    refine ⟨n, ?_⟩
    rw [← hfloor, hwhole]
    push_cast
    rfl
  · rintro ⟨m, hm⟩
    -- The number is a multiple and less than a tenth of the unit.
    have hten : (10 : ℚ) ≤ 10 ^ ((k : ℤ) + 1) := by
      exact_mod_cast Nat.le_self_pow (Nat.succ_ne_zero k) 10
    have hfract := Int.self_sub_floor q
    have hless := Int.fract_lt_one q
    have hnonneg := Int.fract_nonneg q
    have hq : q / 10 ^ ((k : ℤ) + 1) = m + Int.fract q / 10 ^ ((k : ℤ) + 1) := by
      rw [div_eq_iff hunit.ne', add_mul, div_mul_cancel₀ _ hunit.ne', ← hm]
      linarith
    have hsmall : Int.fract q / 10 ^ ((k : ℤ) + 1) < 1 / 2 := by
      rw [div_lt_iff₀ hunit]
      linarith
    have hnear : NearestBy Even (q / 10 ^ ((k : ℤ) + 1)) m := by
      refine NearestBy.of_lt ?_
      rw [hq, add_sub_cancel_left, abs_of_nonneg (by positivity)]
      exact hsmall
    obtain rfl := hn.unique_even hnear
    rw [← hm, Int.floor_intCast]

/-- **The whole part of a number that is rounded at a place.** -/
theorem floor_eq_iff (h : RoundsAt 10 place q v) : ⌊v⌋ = ⌊q⌋ ↔ KeepsWhole place q := by
  rw [KeepsWhole]
  split_ifs with hneg hzero
  · exact h.floor_eq_iff_of_neg hneg
  · subst hzero
    exact h.floor_eq_iff_of_zero
  · exact h.floor_eq_iff_of_pos (by omega)

end RoundsAt

end Number

open Number

/-! ### Rounding as a built-in -/

namespace OnNumber

variable {v : Value} {d : Decimal}

/-- A built-in on one number works on the decimal that the number is converted to. -/
theorem unary_eq {operation : Decimal → Except Decimal.Signal Decimal} (hv : v.isNumber = true)
    (hd : v.toNumber = .ok d) : unary operation v = Answer.decimal (operation d) := by
  rw [unary, Answer.withNumber, if_pos hv, hd]
  rfl

theorem toRat_half : half.toRat = 1 / 2 := by
  norm_num [half, Decimal.toRat, withSign, Decimal.magnitude]

/-- **What rounding comes to**: the sum with a half is rounded into the context and then rounded
down. A sum beyond the range fails. -/
theorem ends_round (hv : v.IsFiniteNumber) :
    ∃ s, Decimal.standard.Rounds (v.writtenRat + 1 / 2) s ∧
      ((∃ r : Decimal, Builtin.round.invoke [v] = .success (.decimal r) ∧
          |s| < Decimal.standard.limit ∧ r.isFinite = true ∧ r.toRat = ⌊s⌋) ∨
        Builtin.round.invoke [v] = .failure FailureCode.unexpectedError
            (Fault.arithmetic .overflow).message ∧
          Decimal.standard.limit ≤ |s|) := by
  obtain ⟨d, hd, hfinite, hrat⟩ := hv.exists_toNumber
  have happly : Builtin.round.apply [v] =
      Answer.decimal ((Decimal.standard.add d half).map (Decimal.roundToWhole .floor)) :=
    unary_eq hv.isNumber hd
  have hsum := Decimal.standard.delivers_add (by decide) hfinite (y := half) rfl
  rw [hrat, toRat_half] at hsum
  rw [Builtin.invoke, happly]
  cases hadd : Decimal.standard.add d half with
  | ok sum =>
    obtain ⟨hsumFinite, hrounds, hlimit⟩ := hsum.of_ok hadd
    exact ⟨_, hrounds, .inl ⟨_, rfl, hlimit, Decimal.isFinite_roundToWhole .floor hsumFinite,
      Decimal.toRat_roundToWhole_floor hsumFinite⟩⟩
  | error signal =>
    obtain ⟨rfl, s, hrounds, hlimit⟩ := hsum.of_error hadd
    exact ⟨s, hrounds, .inr ⟨rfl, hlimit⟩⟩

/-- **Rounding gives the nearest whole number**, of two the larger one, if and only if the sum with a
half keeps its whole part when it is rounded to the digits of the context. -/
theorem round_nearest_iff (hv : v.IsFiniteNumber) :
    ∃ s, Decimal.standard.Rounds (v.writtenRat + 1 / 2) s ∧
      ((∃ r : Decimal, Builtin.round.invoke [v] = .success (.decimal r) ∧
          |s| < Decimal.standard.limit ∧ r.isFinite = true ∧ r.toRat = ⌊s⌋ ∧
          (r.toRat = ⌊v.writtenRat + 1 / 2⌋ ↔
            KeepsWhole (Decimal.standard.lastPlace (v.writtenRat + 1 / 2))
              (v.writtenRat + 1 / 2))) ∨
        Builtin.round.invoke [v] = .failure FailureCode.unexpectedError
            (Fault.arithmetic .overflow).message ∧
          Decimal.standard.limit ≤ |s|) := by
  obtain ⟨s, hrounds, ⟨r, hinvoke, hlimit, hfinite, hrat⟩ | hfails⟩ := ends_round hv
  · refine ⟨s, hrounds, .inl ⟨r, hinvoke, hlimit, hfinite, hrat, ?_⟩⟩
    rw [hrat, Int.cast_inj]
    exact RoundsAt.floor_eq_iff hrounds
  · exact ⟨s, hrounds, .inr hfails⟩

theorem downHalf_round_nearest_iff :
    (Value.decimal (.finite true 25 (-1))).IsFiniteNumber ∧
      ∃ s, Decimal.standard.Rounds ((Value.decimal (.finite true 25 (-1))).writtenRat + 1 / 2) s ∧
        ((∃ r : Decimal,
            Builtin.round.invoke [.decimal (.finite true 25 (-1))] = .success (.decimal r) ∧
            |s| < Decimal.standard.limit ∧ r.isFinite = true ∧ r.toRat = ⌊s⌋ ∧
            (r.toRat = ⌊(Value.decimal (.finite true 25 (-1))).writtenRat + 1 / 2⌋ ↔
              KeepsWhole
                (Decimal.standard.lastPlace
                  ((Value.decimal (.finite true 25 (-1))).writtenRat + 1 / 2))
                ((Value.decimal (.finite true 25 (-1))).writtenRat + 1 / 2))) ∨
          Builtin.round.invoke [.decimal (.finite true 25 (-1))] =
              .failure FailureCode.unexpectedError (Fault.arithmetic .overflow).message ∧
            Decimal.standard.limit ≤ |s|) :=
  ⟨⟨rfl, rfl⟩, round_nearest_iff ⟨rfl, rfl⟩⟩

/-- The least odd number of twenty-eight digits. -/
def longWhole : ℤ :=
  1000000000000000000000000001

/-- **A whole number of twenty-eight digits** may be moved to the next one. -/
theorem long_whole_moved :
    (Value.int longWhole).IsFiniteNumber ∧
      Builtin.round.invoke [.int longWhole] = .success (.decimal (.ofInt (longWhole + 1))) ∧
      ¬∀ v : Value, v.IsFiniteNumber → ∀ r : Decimal,
        Builtin.round.invoke [v] = .success (.decimal r) → r.toRat = ⌊v.writtenRat + 1 / 2⌋ := by
  have hmoved : Builtin.round.invoke [.int longWhole] =
      .success (.decimal (.ofInt (longWhole + 1))) := by
    rfl
  have hhalf : ⌊(1 / 2 : ℚ)⌋ = 0 := Int.floor_eq_zero_iff.mpr (by norm_num)
  refine ⟨⟨rfl, rfl⟩, hmoved, fun h => ?_⟩
  have hkept := h _ ⟨rfl, rfl⟩ _ hmoved
  have hwritten : (Value.int longWhole).writtenRat = longWhole := rfl
  rw [Decimal.toRat_ofInt, hwritten, Int.cast_inj, Int.floor_intCast_add, hhalf] at hkept
  omega

/-- **A half behind a whole number** that leaves a digit for it does not move it. -/
theorem keepsWhole_add_half {k : ℤ} (hshort : |k| < 10 ^ 27) :
    KeepsWhole (Decimal.standard.lastPlace (k + 1 / 2)) (k + 1 / 2) := by
  have hfract : Int.fract ((k : ℚ) + 1 / 2) = 1 / 2 := by
    rw [Int.fract_intCast_add, Int.fract_eq_self.mpr (by norm_num)]
  have hpos : 0 < |(k : ℚ) + 1 / 2| := by
    refine abs_pos.mpr fun hzero => ?_
    rw [hzero, Int.fract_zero] at hfract
    norm_num at hfract
  have hless : |(k : ℚ) + 1 / 2| < (10 : ℕ) ^ (27 : ℤ) :=
    calc |(k : ℚ) + 1 / 2| ≤ |(k : ℚ)| + |1 / 2| := abs_add_le _ _
      _ < |(k : ℚ)| + 1 := by norm_num
      _ ≤ 10 ^ 27 := by exact_mod_cast Int.add_one_le_iff.mpr hshort
      _ = (10 : ℕ) ^ (27 : ℤ) := by norm_num
  have hplace : Decimal.standard.lastPlace ((k : ℚ) + 1 / 2) < 0 := by
    have hlog := (Int.lt_zpow_iff_log_lt (b := 10) (by decide) hpos).mp hless
    refine max_lt (by decide) ?_
    change _ - (28 : ℤ) < 0
    omega
  rw [KeepsWhole, if_pos hplace, hfract]
  refine (zpow_lt_one_of_neg₀ (by norm_num) hplace).trans_eq ?_
  norm_num

/-- **Whole numbers that leave a digit for the half** are not changed. -/
theorem round_of_whole {k : ℤ} (hv : v.IsFiniteNumber) (hk : v.writtenRat = k)
    (hshort : |k| < 10 ^ 27) :
    ∃ r : Decimal, Builtin.round.invoke [v] = .success (.decimal r) ∧ r.toRat = k := by
  have hfloor : ⌊(k : ℚ) + 1 / 2⌋ = k := by
    rw [Int.floor_intCast_add, Int.floor_eq_zero_iff.mpr (by norm_num), add_zero]
  obtain ⟨s, hrounds, hends⟩ := ends_round hv
  rw [hk] at hrounds
  have hwhole : ⌊s⌋ = k :=
    ((RoundsAt.floor_eq_iff hrounds).mpr (keepsWhole_add_half hshort)).trans hfloor
  rcases hends with ⟨r, hinvoke, -, -, hrat⟩ | ⟨-, hlimit⟩
  · exact ⟨r, hinvoke, by rw [hrat, hwhole]⟩
  · -- The sum is far from the end of the range.
    have hbound : |(k : ℚ)| + 1 ≤ 10 ^ 27 := by exact_mod_cast Int.add_one_le_iff.mpr hshort
    have hfar : (10 : ℚ) ^ (27 : ℤ) ≤ Decimal.standard.limit :=
      zpow_le_zpow_right₀ (by norm_num) (by decide)
    have hlow := Int.floor_le s
    have hhigh := Int.lt_floor_add_one s
    have hnear : |s| < |(k : ℚ)| + 1 := by
      rw [hwhole] at hlow hhigh
      rw [abs_lt]
      exact ⟨by linarith [neg_abs_le (k : ℚ)], by linarith [le_abs_self (k : ℚ)]⟩
    exact absurd (hlimit.trans_lt hnear) (not_lt.mpr (hbound.trans hfar))

end OnNumber

end RuleFlow
