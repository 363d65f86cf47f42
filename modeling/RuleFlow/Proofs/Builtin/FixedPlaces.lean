import RuleFlow.Builtin.Basic
import RuleFlow.Proofs.Number.Grid
import RuleFlow.Proofs.Number.ShortestText
import RuleFlow.Proofs.Value.FiniteNumber

/-!
# Texts with a fixed number of places

A number is written with a fixed number of places by choosing the exponent: the coefficient is the
nearest whole number, of two the one further from zero, and has to fit the precision. The digits are
written with a point and never with an exponent, so that the text says what the number is.

* `RuleFlow.Number.NearestAway` is the nearest whole number with ties away from zero, and
  `RuleFlow.Number.NearestAway.unique` says that there is one.
* `RuleFlow.Number.Decimal.Context.exists_quantize_eq` says what choosing an exponent comes to.
* `RuleFlow.Number.Decimal.WritesFixed` is the form of the texts, with the number that one writes.
* `RuleFlow.OnNumber.toFixed_exact` is the result.
-/

namespace RuleFlow

namespace Number

/-! ### Ties away from zero -/

/-- **The nearest whole number**, of two the one further from zero. -/
def NearestAway (q : ℚ) (n : ℤ) : Prop :=
  NearestBy (fun n => |q| < |(n : ℚ)|) q n

/-- There is only one such number. -/
theorem NearestAway.unique {q : ℚ} {n m : ℤ} (h : NearestAway q n) (h' : NearestAway q m) :
    n = m := by
  refine NearestBy.unique h h' fun k hmiddle hlow hhigh => ?_
  -- Of the two neighbours of a middle only one is further from zero than it is.
  rw [hmiddle] at hlow hhigh
  rcases Int.lt_or_le k 0 with hneg | hpos
  · have hnext : (k : ℚ) + 1 ≤ 0 := by exact_mod_cast hneg
    push_cast at hhigh
    rw [abs_of_neg (by linarith), abs_of_nonpos hnext] at hhigh
    linarith
  · have hpos' : (0 : ℚ) ≤ k := by exact_mod_cast hpos
    rw [abs_of_nonneg (by linarith), abs_of_nonneg hpos'] at hlow
    linarith

namespace Decimal

/-- The sign is put to the nearest magnitude. -/
theorem nearestAway_signed (negative : Bool) {q : ℚ} {n : Nat} (hq : 0 ≤ q)
    (h : NearestBy (fun n => q < n) q n) :
    NearestAway (withSign negative q) (signed negative n) := by
  have hdistance : |withSign negative q - (signed negative n : ℤ)| = |q - (n : ℤ)| := by
    rw [cast_signed, abs_withSign_sub, Int.cast_natCast]
  refine ⟨hdistance.trans_le h.near, fun htie => ?_⟩
  rw [cast_signed, abs_withSign negative hq, abs_withSign negative (Nat.cast_nonneg n)]
  exact_mod_cast h.tie (hdistance.symm.trans htie)

end Decimal

namespace Decimal.Context

variable {ctx : Context}

/-! ### Choosing the exponent -/

/-- The coefficient that a chosen exponent comes to is the nearest whole number. -/
theorem nearestBy_coefficient (n : Bool) (c : Nat) (e exponent : Int) :
    NearestBy (fun m => magnitude c e / 10 ^ exponent < m) (magnitude c e / 10 ^ exponent)
      ((if exponent ≤ e then scaled c e exponent
        else if (digitCount c : Int) < exponent - e then 0
        else Rounding.halfUp.quotient n c (tenPow (exponent - e).toNat) : Nat) : ℤ) := by
  have hunit : (10 : ℚ) ^ exponent ≠ 0 := zpow_ne_zero _ (by norm_num)
  split_ifs with hexact hshort
  · rw [← magnitude_scaled hexact, magnitude, mul_div_cancel_right₀ _ hunit]
    exact NearestBy.self _ _
  all_goals
    obtain ⟨k, rfl⟩ : ∃ k : Nat, exponent = e + k := ⟨(exponent - e).toNat, by omega⟩
    have hquotient : magnitude c e / 10 ^ (e + k) = c / 10 ^ k := by
      rw [magnitude, zpow_add₀ (by norm_num), zpow_natCast, mul_comm (c : ℚ),
        mul_div_mul_left _ _ (zpow_ne_zero _ (by norm_num))]
    rw [hquotient]
  · exact nearestBy_zero (by omega)
  · have hplaces : (e + k - e).toNat = k := by omega
    have hround := Rounding.nearestBy_quotient_halfUp n c
      (Nat.pow_pos (by decide) : 0 < tenPow k)
    have hcast : ((10 ^ k : Nat) : ℚ) = 10 ^ k := by exact_mod_cast rfl
    rw [hplaces]
    rwa [hcast] at hround

/-- A number with more digits than a precision before any rounding has as many after it. -/
theorem pow_le_of_lt_adjusted {c m precision : Nat} {e exponent : Int} {tie : ℤ → Prop}
    (hc : c ≠ 0) (hm : NearestBy tie (magnitude c e / 10 ^ exponent) m)
    (hlong : (precision : Int) < adjusted c e - exponent + 1) : 10 ^ precision ≤ m := by
  have hlog : (10 : ℚ) ^ adjusted c e ≤ magnitude c e := by
    rw [adjusted_eq hc]
    exact_mod_cast Int.zpow_log_le_self (b := 10) (by decide) (magnitude_pos hc)
  have hreached : ((10 ^ precision : Nat) : ℤ) ≤ m := by
    refine hm.le_of_le ?_
    rw [le_div_iff₀ (zpow_pos (by norm_num) _)]
    push_cast
    rw [← zpow_natCast, ← zpow_add₀ (by norm_num)]
    exact (zpow_le_zpow_right₀ (by norm_num) (by omega)).trans hlog
  exact_mod_cast hreached

/-- **Choosing an exponent** well within the range keeps the nearest number with this exponent, if
its digits fit the precision. -/
theorem exists_quantize_eq (hprecision : 0 < ctx.precision) (n : Bool) (c : Nat) (e : Int)
    {exponent : Int} (hleast : ctx.tiny ≤ exponent)
    (hmost : exponent + ctx.precision ≤ ctx.maxExponent) :
    ∃ m : Nat, NearestBy (fun k => magnitude c e / 10 ^ exponent < k)
        (magnitude c e / 10 ^ exponent) m ∧
      ctx.quantize (.finite n c e) exponent =
        if m < 10 ^ ctx.precision then .ok (.finite n m exponent)
        else .error .invalidOperation := by
  rw [quantize, if_neg (by omega)]
  by_cases hc : c = 0
  · refine ⟨0, ?_, ?_⟩
    · rw [magnitude_eq_zero.mpr hc, zero_div]
      exact NearestBy.self _ 0
    · rw [if_pos hc, if_pos (Nat.pow_pos (by decide))]
  have hnearest := nearestBy_coefficient n c e exponent
  rw [if_neg hc]
  dsimp only
  generalize (if exponent ≤ e then scaled c e exponent
    else if (digitCount c : Int) < exponent - e then 0
    else Rounding.halfUp.quotient n c (tenPow (exponent - e).toNat)) = m at hnearest
  refine ⟨m, hnearest, ?_⟩
  have hrefused : ctx.precision < digitCount m ∨ m ≠ 0 ∧ ctx.maxExponent < adjusted m exponent ↔
      ¬m < 10 ^ ctx.precision := by
    rw [← lt_digitCount_iff hprecision]
    refine or_iff_left_of_imp ?_
    rintro ⟨-, hover⟩
    rw [adjusted] at hover
    omega
  by_cases hlong : (ctx.precision : Int) < adjusted c e - exponent + 1
  · rw [if_pos hlong, if_neg (not_lt.mpr (pow_le_of_lt_adjusted hc hnearest hlong))]
  · rw [if_neg hlong, if_congr hrefused rfl rfl, ite_not]

end Decimal.Context

namespace Decimal

variable {negative : Bool} {n places : Nat}

/-- A whole number of units of the last place. -/
theorem toRat_places (negative : Bool) (n places : Nat) :
    (finite negative n (-places)).toRat = (signed negative n : ℤ) / 10 ^ places := by
  rw [toRat, magnitude, zpow_neg, zpow_natCast, cast_signed]
  cases negative <;> simp [withSign, div_eq_mul_inv]

/-- **A number is brought to a number of places** in the standard context. -/
theorem exists_quantize_places {d : Decimal} (hd : d.isFinite = true) (hmost : places ≤ 100) :
    ∃ negative n, NearestAway (d.toRat * 10 ^ places) (signed negative n) ∧
      standard.quantize d (-places) =
        if n < 10 ^ 28 then .ok (.finite negative n (-places)) else .error .invalidOperation := by
  cases d with
  | finite negative c e =>
    have hleast : standard.tiny ≤ -(places : Int) := by
      change (-999999 - 28 + 1 : Int) ≤ _
      omega
    have hrange : -(places : Int) + standard.precision ≤ standard.maxExponent := by
      change -(places : Int) + (28 : Int) ≤ 999999
      omega
    obtain ⟨n, hnearest, hquantize⟩ :=
      Context.exists_quantize_eq (by decide) negative c e hleast hrange
    have hunits : magnitude c e / 10 ^ (-(places : Int)) = magnitude c e * 10 ^ places := by
      rw [zpow_neg, zpow_natCast, div_inv_eq_mul]
    have hsigned : (finite negative c e).toRat * 10 ^ places =
        withSign negative (magnitude c e * 10 ^ places) := by
      rw [toRat]
      cases negative <;> simp [withSign]
    refine ⟨negative, n, ?_, hquantize⟩
    rw [hunits] at hnearest
    rw [hsigned]
    exact nearestAway_signed negative (mul_nonneg (magnitude_nonneg c e) (by positivity)) hnearest
  | _ => cases hd

/-! ### The text -/

/-- **A text with a fixed number of places** and the number that it writes: a sign or none, one digit
at least, and behind a point as many digits as there are places. -/
def WritesFixed (places : Nat) (cs : List Char) (q : ℚ) : Prop :=
  ∃ negative whole fraction,
    cs = signChars negative ++ whole ++ (if places = 0 then [] else '.' :: fraction) ∧
      whole ≠ [] ∧ (∀ c ∈ whole ++ fraction, c.isDigit = true) ∧ fraction.length = places ∧
      q = withSign negative (digitsValue (whole ++ fraction) / 10 ^ places)

theorem toFixedText_places (negative : Bool) (n places : Nat) :
    (finite negative n (-places)).toFixedText =
      String.ofList (signChars negative ++ pointed (digitChars n) places) := by
  have hplaces : (- -(places : Int)).toNat = places := by omega
  rw [toFixedText, if_neg (by omega), hplaces]

/-- **The digits with a point** are such a text. -/
theorem writesFixed_pointed (negative : Bool) (n places : Nat) :
    WritesFixed places (signChars negative ++ pointed (digitChars n) places)
      (finite negative n (-places)).toRat := by
  obtain ⟨whole, fraction, hpointed, hne, hwhole, hfraction, hlength, hvalue⟩ :=
    exists_pointed_eq n places
  refine ⟨negative, whole, fraction, by rw [hpointed, List.append_assoc], hne,
    List.forall_mem_append.mpr ⟨hwhole, hfraction⟩, hlength, ?_⟩
  rw [hvalue, toRat, magnitude, zpow_neg, zpow_natCast, div_eq_mul_inv]

/-- **Such a text is read back** with its sign, its digits and its places. -/
theorem ofText?_places (hplaces : places ≤ 100) (hn : n < 10 ^ 28) :
    ofText? (String.ofList (signChars negative ++ pointed (digitChars n) places)) =
      some (.finite negative n (-places)) := by
  have hchars : numeralChars (signChars negative ++ pointed (digitChars n) places) =
      signChars negative ++ pointed (digitChars n) places :=
    numeralChars_eq_self fun c hc =>
      (List.mem_append.mp hc).elim isWritten_of_mem_signChars isWritten_of_mem_pointed
  have hleading : n ≠ 0 → Int.log 10 (magnitude n (-places)) ≤ 2000 := fun hne => by
    have hlog : Nat.log 10 n < 28 := Nat.log_lt_of_lt_pow hne hn
    rw [← adjusted_eq hne, adjusted, digitCount_eq]
    omega
  have hread := ofChars?_of_numeralChars hchars
    (startsWithDigit_pointed (startsWithDigit_digitChars n) places)
  rw [magnitude?_pointed, Binary64.bounded?_eq_some (by omega) (by omega) hleading,
    Option.some_or] at hread
  rw [ofText?, String.toList_ofList, hread]

/-- A blank text is no numeral. -/
theorem ofText?_of_blank {s : String} (h : (Text.trim s).isEmpty = true) : ofText? s = none := by
  have htrim : Text.trimChars s.toList = [] := by
    rw [Text.trim] at h
    simpa using h
  have hchars : numeralChars s.toList = [] := by
    rw [numeralChars, htrim]
    rfl
  rw [ofText?, ofChars?, hchars]
  rfl

end Decimal

end Number

open Number

/-! ### Fixed places as a built-in -/

/-- **A numeral** is converted to its number. -/
theorem OnValue.invoke_toNumber_of_ofText? {s : String} {d : Decimal}
    (hd : Decimal.ofText? s = some d) (hfinite : d.isFinite = true) :
    Builtin.toNumber.invoke [.text s] = .success (.decimal d) := by
  have hblank : isBlankText (.text s) = false := by
    rw [isBlankText, Bool.eq_false_iff]
    intro hblank
    rw [Decimal.ofText?_of_blank hblank] at hd
    cases hd
  have hnumber : Value.toNumber (.text s) = .ok d := by simp [Value.toNumber, hd, hfinite]
  have happly : Builtin.toNumber.apply [.text s] = .ok (.success (.decimal d)) := by
    change OnValue.toNumber (.text s) = _
    rw [OnValue.toNumber, hblank, if_neg Bool.false_ne_true, hnumber]
    · rfl
    · intro _ hbool
      cases hbool
    · intro hnull
      cases hnull
  rw [Builtin.invoke, happly]

namespace OnNumber

variable {v decimals : Value} {places : Nat}

/-- What is written of a number is what choosing the exponent makes of it. -/
theorem toFixed_eq {d : Decimal} (hv : v.isNumber = true) (hdecimals : decimals.isNumber = true)
    (hd : v.toNumber = .ok d) (hplaces : decimals.toWhole = .ok places) (hmost : places ≤ 100) :
    toFixed v decimals =
      match Decimal.standard.quantize d (-places) with
      | .ok d => Answer.value (.text d.toFixedText)
      | .error s => .error (.arithmetic s) := by
  rw [toFixed, Answer.withNumber, if_pos hv, Answer.withNumber, if_pos hdecimals, hplaces]
  change (if (places : Int) < 0 ∨ 100 < (places : Int) then _ else _) = _
  rw [if_neg (by omega), hd]
  rfl

/-- **Writing a number with a fixed number of places is exact**: the text writes the nearest multiple
of the unit of the last place, of two the one further from zero, and is read back as it. There is no
text if the multiple has more digits than the precision. -/
theorem toFixed_exact (hv : v.IsFiniteNumber) (hdecimals : decimals.isNumber = true)
    (hplaces : decimals.toWhole = .ok places) (hmost : places ≤ 100) :
    ∃ n : ℤ, NearestAway (v.writtenRat * 10 ^ places) n ∧
      if |n| < 10 ^ 28 then
        ∃ s, Builtin.toFixed.invoke [v, decimals] = .success (.text s) ∧
          Decimal.WritesFixed places s.toList (n / 10 ^ places) ∧
          ∃ d, Builtin.toNumber.invoke [.text s] = .success (.decimal d) ∧ d.isFinite = true ∧
            d.toRat = n / 10 ^ places
      else
        Builtin.toFixed.invoke [v, decimals] =
          .failure FailureCode.unexpectedError (Fault.arithmetic .invalidOperation).message := by
  obtain ⟨d, hd, hfinite, hrat⟩ := hv.exists_toNumber
  obtain ⟨negative, n, hnearest, hquantize⟩ := Decimal.exists_quantize_places hfinite hmost
  have happly : Builtin.toFixed.apply [v, decimals] = _ :=
    toFixed_eq hv.isNumber hdecimals hd hplaces hmost
  have hdigits : |Decimal.signed negative n| < 10 ^ 28 ↔ n < 10 ^ 28 := by
    have habs : |Decimal.signed negative n| = n := by
      cases negative <;> simp [Decimal.signed]
    rw [habs]
    exact_mod_cast Iff.rfl
  rw [hquantize] at happly
  refine ⟨Decimal.signed negative n, hrat ▸ hnearest, ?_⟩
  rw [Builtin.invoke, happly, if_congr hdigits rfl rfl, ← Decimal.toRat_places]
  split_ifs with hn
  · refine ⟨_, rfl, ?_, _, OnValue.invoke_toNumber_of_ofText? ?_ rfl, rfl, rfl⟩
    · rw [Decimal.toFixedText_places, String.toList_ofList]
      exact Decimal.writesFixed_pointed negative n places
    · rw [Decimal.toFixedText_places]
      exact Decimal.ofText?_places hmost hn
  · rfl

/-- A number whose digits are all carried, and two places. -/
theorem carried_toFixed_exact :
    (Value.decimal (.finite true 999995 (-3))).IsFiniteNumber ∧
      (Value.decimal (.finite false 29 (-1))).isNumber = true ∧
      (Value.decimal (.finite false 29 (-1))).toWhole = .ok (2 : Nat) ∧ 2 ≤ 100 ∧
      ∃ n : ℤ,
        NearestAway ((Value.decimal (.finite true 999995 (-3))).writtenRat * 10 ^ 2) n ∧
        if |n| < 10 ^ 28 then
          ∃ s,
            Builtin.toFixed.invoke
                [.decimal (.finite true 999995 (-3)), .decimal (.finite false 29 (-1))] =
              .success (.text s) ∧
            Decimal.WritesFixed 2 s.toList (n / 10 ^ 2) ∧
            ∃ d, Builtin.toNumber.invoke [.text s] = .success (.decimal d) ∧
              d.isFinite = true ∧ d.toRat = n / 10 ^ 2
        else
          Builtin.toFixed.invoke
              [.decimal (.finite true 999995 (-3)), .decimal (.finite false 29 (-1))] =
            .failure FailureCode.unexpectedError (Fault.arithmetic .invalidOperation).message :=
  ⟨⟨rfl, rfl⟩, rfl, rfl, by decide, toFixed_exact ⟨rfl, rfl⟩ rfl rfl (by decide)⟩

example : Builtin.toFixed.invoke
    [.decimal (.finite true 999995 (-3)), .decimal (.finite false 29 (-1))] =
      .success (.text "-1000.00") := by
  rfl

end OnNumber

end RuleFlow
