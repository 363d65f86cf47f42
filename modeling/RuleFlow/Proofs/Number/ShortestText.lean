import RuleFlow.Proofs.Number.DecimalText
import RuleFlow.Proofs.Number.Nearest

/-!
# The shortest text of a double is read back

The digits of a double are looked for on finer and finer grids. On the last grid stands the exact
value of the double, so that the search never comes to its end without digits, and what it finds is
rounded to the double. The text writes these digits in one of three forms, all of which are read as
the number that they write. So different doubles never have texts of one number.

* `RuleFlow.Number.Binary64.Finite.exists_shortestFrom` is the run of the search, and
  `RuleFlow.Number.Binary64.Finite.isSome_onGrid?` the grid on which it ends.
* `RuleFlow.Number.Binary64.Finite.ofScientific_shortest` is what it comes to.
* `RuleFlow.Number.Binary64.exists_magnitude?_magnitudeChars` reads the three forms.
* `RuleFlow.Number.Binary64.ofText?_toText` is the result, and
  `RuleFlow.Number.Binary64.Finite.toRat_toShortDecimal_eq_iff` what follows for two doubles.
-/

namespace RuleFlow.Number.Binary64

/-! ### Grids -/

namespace Finite

variable {x : Finite} {num den : Nat} {unit leading : Int}

theorem readsBack_iff {n : Nat} :
    x.readsBack n unit = true ↔ ofScientific x.negative n unit = .finite x :=
  beq_iff_eq

theorem ratioAt_snd_pos (num : Nat) (hden : 0 < den) (unit : Int) :
    0 < (ratioAt num den unit).2 := by
  rw [ratioAt]
  split_ifs
  · exact Nat.mul_pos hden (Nat.pow_pos (by decide))
  · exact hden

/-- A ratio in units of a power of ten. -/
theorem ratioAt_eq (num den : Nat) (unit : Int) :
    ((ratioAt num den unit).1 : ℚ) / (ratioAt num den unit).2 * 10 ^ unit = num / den := by
  rw [ratioAt]
  split_ifs with hunit
  · obtain ⟨n, rfl⟩ := Int.eq_ofNat_of_zero_le hunit
    simp
    field_simp
  · obtain ⟨n, rfl⟩ : ∃ n : Nat, unit = -n := ⟨(-unit).toNat, by omega⟩
    simp
    field_simp

/-- **What is found on a grid reads back.** -/
theorem readsBack_of_onGrid? {n : Nat} (h : onGrid? x num den unit = some n) :
    x.readsBack n unit = true := by
  rw [onGrid?] at h
  dsimp only at h
  split_ifs at h with hboth hnear hlower hupper
  · exact Option.some.inj h ▸ (Bool.and_eq_true_iff.mp hboth).1
  · exact Option.some.inj h ▸ (Bool.and_eq_true_iff.mp hboth).2
  · exact Option.some.inj h ▸ hlower
  · exact Option.some.inj h ▸ hupper

/-- **A grid on which the double stands** has something to find. -/
theorem isSome_onGrid? {c : Nat} (h : Decimal.magnitude c unit = x.magnitude) :
    (onGrid? x x.ratio.1 x.ratio.2 unit).isSome = true := by
  have hden := ratioAt_snd_pos x.ratio.1 x.ratio_snd_pos unit
  have hratio := ratioAt_eq x.ratio.1 x.ratio.2 unit
  rw [ratio_fst_div_snd, ← h, Decimal.magnitude,
    mul_left_inj' (zpow_ne_zero unit (by norm_num : (10 : ℚ) ≠ 0)),
    div_eq_iff (by exact_mod_cast hden.ne')] at hratio
  generalize hpair : ratioAt x.ratio.1 x.ratio.2 unit = pair at hden hratio
  have hexact : pair.1 = c * pair.2 := by exact_mod_cast hratio
  have hbelow : pair.1 / pair.2 = c := by rw [hexact, Nat.mul_div_cancel _ hden]
  have hlower : x.readsBack c unit = true := readsBack_iff.mpr (ofScientific_of_magnitude_eq h)
  rw [onGrid?, hpair]
  dsimp only
  rw [hbelow, hlower]
  cases x.readsBack (c + 1) unit with
  | true => rfl
  | false => rfl

/-- **The search ends on the first grid with something to find.** -/
theorem exists_shortestFrom {fuel digits last : Nat} (hfirst : digits ≤ last)
    (hlast : last < digits + fuel)
    (hhit : (onGrid? x num den (leading - last + 1)).isSome = true) :
    ∃ n k : Nat, shortestFrom x num den leading fuel digits = (n, leading - k + 1) ∧
      digits ≤ k ∧ k ≤ last ∧ x.readsBack n (leading - k + 1) = true := by
  induction fuel generalizing digits with
  | zero => omega
  | succ fuel ih =>
    rw [shortestFrom]
    cases hgrid : onGrid? x num den (leading - digits + 1) with
    | some n => exact ⟨n, digits, rfl, Nat.le_refl _, hfirst, readsBack_of_onGrid? hgrid⟩
    | none =>
      have hne : digits ≠ last := by
        rintro rfl
        rw [hgrid] at hhit
        exact nomatch hhit
      obtain ⟨n, k, hfrom, hle, hk, hreads⟩ := ih (show digits + 1 ≤ last by omega) (by omega)
      exact ⟨n, k, hfrom, by omega, hk, hreads⟩

/-- The last grid is at least as fine as the one on which the exact decimal is written. -/
theorem last_unit_le (hzero : x.mantissa ≠ 0) :
    Int.log 10 x.magnitude - (1100 : Nat) + 1 ≤ min x.exponent 0 := by
  obtain ⟨-, hhigh⟩ := x.log_magnitude hzero
  by_cases hexponent : 0 ≤ x.exponent
  · omega
  · -- A double with a fraction has no more than sixteen digits before the point.
    obtain ⟨hbits, hleast, -, -⟩ := x.canonical
    have hmantissa : (1 : ℚ) ≤ x.mantissa := by exact_mod_cast Nat.pos_of_ne_zero hzero
    have hbits' : (x.mantissa : ℚ) ≤ 2 ^ 53 := by exact_mod_cast hbits.le
    have hpos : 0 < x.magnitude := mul_pos (by linarith) (zpow_pos (by norm_num) _)
    have hsmall : x.magnitude < (10 : ℚ) ^ (16 : Int) :=
      calc (x.mantissa : ℚ) * 2 ^ x.exponent ≤ 2 ^ 53 * 2 ^ (-1 : Int) := by
            gcongr
            · norm_num
            · omega
        _ < (10 : ℚ) ^ (16 : Int) := by norm_num
    have hlog : Int.log 10 x.magnitude < 16 := by
      rw [← Int.lt_zpow_iff_log_lt (by decide) hpos]
      simpa only [Nat.cast_ofNat] using hsmall
    omega

/-- **On the last grid stands the double itself.** -/
theorem isSome_onGrid?_last (hzero : x.mantissa ≠ 0) :
    (onGrid? x x.ratio.1 x.ratio.2 (Int.log 10 x.magnitude - (1100 : Nat) + 1)).isSome = true := by
  obtain ⟨c, -, hexact⟩ := x.exists_toDecimal_eq
  exact isSome_onGrid? ((Decimal.magnitude_scaled (last_unit_le hzero)).trans hexact)

/-- **The shortest digits** are rounded to the double, and stand near its leading digit. -/
theorem ofScientific_shortest (x : Finite) :
    ofScientific x.negative x.shortest.1 x.shortest.2 = .finite x ∧
      -1500 ≤ x.shortest.2 ∧ x.shortest.2 ≤ 308 := by
  by_cases hzero : x.mantissa = 0
  · rw [shortest, if_pos hzero]
    exact ⟨x.eq_zero_of_mantissa hzero, by decide, by decide⟩
  · obtain ⟨hlow, hhigh⟩ := x.log_magnitude hzero
    obtain ⟨n, k, hfrom, hfirst, hlast, hreads⟩ := exists_shortestFrom
      (show 1 ≤ 1100 by decide) (show 1100 < 1 + 1100 by decide) (isSome_onGrid?_last hzero)
    rw [shortest, if_neg hzero]
    dsimp only
    rw [ratioLog10_eq (x.ratio_fst_pos hzero) x.ratio_snd_pos, ratio_fst_div_snd, hfrom]
    exact ⟨readsBack_iff.mp hreads, by dsimp only; omega, by dsimp only; omega⟩

end Finite

/-! ### Digits without zeros at their end -/

/-- Zeros at the end are taken off the digits and counted in the exponent. -/
theorem dropTrailingZeros_spec (fuel n : Nat) (e : Int) :
    Decimal.magnitude (dropTrailingZeros fuel n e).1 (dropTrailingZeros fuel n e).2 =
        Decimal.magnitude n e ∧
      e ≤ (dropTrailingZeros fuel n e).2 ∧ (dropTrailingZeros fuel n e).2 ≤ e + fuel := by
  induction fuel generalizing n e with
  | zero => exact ⟨rfl, Int.le_refl _, by simp [dropTrailingZeros]⟩
  | succ fuel ih =>
    rw [dropTrailingZeros]
    split_ifs with hends
    · obtain ⟨hmagnitude, hlow, hhigh⟩ := ih (n / 10) (e + 1)
      refine ⟨hmagnitude.trans ?_, by omega, by omega⟩
      have hten : ((n / 10 : Nat) : ℚ) * 10 = n := by
        exact_mod_cast Nat.div_mul_cancel (Nat.dvd_of_mod_eq_zero hends.2)
      rw [Decimal.magnitude, Decimal.magnitude, zpow_add_one₀ (by norm_num), ← hten]
      ring
    · exact ⟨rfl, Int.le_refl _, by omega⟩

/-! ### Reading the text -/

/-- Numbers whose digits stand near the point are within the limits of decimals. -/
theorem bounded?_eq_some {negative : Bool} {c : Nat} {e : Int} (hleast : -2000 ≤ e)
    (hmost : e ≤ 2000) (hleading : c ≠ 0 → Int.log 10 (Decimal.magnitude c e) ≤ 2000) :
    Decimal.bounded? negative c e = some (.finite negative c e) := by
  have hlimit : Decimal.exponentLimit = 999999999999999999 := rfl
  have hleastLimit : Decimal.leastExponent = -1999999999999999997 := by decide
  rw [Decimal.bounded?, if_pos]
  refine ⟨?_, by omega⟩
  split_ifs with hc
  · omega
  · have hlog := hleading hc
    rw [← Decimal.adjusted_eq hc] at hlog
    omega

/-- Zeros behind digits move them to the left. -/
theorem digitsValue_append_zeros (cs : List Char) (zeros : Nat) :
    Decimal.digitsValue (cs ++ List.replicate zeros '0') = Decimal.digitsValue cs * 10 ^ zeros := by
  induction zeros with
  | zero => simp
  | succ zeros ih =>
    have hlast : ∀ cs : List Char,
        Decimal.digitsValue (cs ++ ['0']) = Decimal.digitsValue cs * 10 := fun cs => by
      simp [Decimal.digitsValue]
    rw [List.replicate_succ', ← List.append_assoc, hlast, ih, Nat.pow_succ, Nat.mul_assoc]

/-- A whole number with a zero behind the point is read with the zeros that fill it up. -/
theorem magnitude?_pointZero (negative : Bool) (n zeros : Nat) :
    Decimal.magnitude? negative (digitChars n ++ List.replicate zeros '0' ++ ['.', '0']) =
      Decimal.bounded? negative (n * 10 ^ (zeros + 1)) (-1) := by
  have hwhole : ∀ c ∈ digitChars n ++ List.replicate zeros '0', c.isDigit = true := fun c hc =>
    (List.mem_append.mp hc).elim isDigit_of_mem_digitChars isDigit_of_mem_replicate
  have hne : digitChars n ++ List.replicate zeros '0' ≠ [] :=
    List.append_ne_nil_of_left_ne_nil Nat.toDigits_ne_nil _
  have hread := Decimal.magnitude?_fraction negative hne hwhole
    (show ∀ c ∈ ['0'], c.isDigit = true by simp) Decimal.stopsDigits_nil
  have hvalue : Decimal.digitsValue (digitChars n ++ List.replicate zeros '0' ++ ['0']) =
      n * 10 ^ (zeros + 1) := by
    rw [List.append_assoc, ← List.replicate_succ', digitsValue_append_zeros,
      Decimal.digitsValue_digitChars]
  rw [hvalue] at hread
  exact hread

/-- **The three forms are read back** as the number that digits and exponent write. -/
theorem exists_magnitude?_magnitudeChars (negative : Bool) (n : Nat) {unit : Int}
    (hleast : -1500 ≤ unit) (hmost : unit ≤ 1500)
    (hleading : n ≠ 0 → Int.log 10 (Decimal.magnitude n unit) ≤ 1500) :
    ∃ c e, Decimal.magnitude? negative (magnitudeChars plainStyle n unit) =
        some (.finite negative c e) ∧
      Decimal.magnitude c e = Decimal.magnitude n unit := by
  have hbounded : Decimal.bounded? negative n unit = some (.finite negative n unit) :=
    bounded?_eq_some (by omega) (by omega) fun hn => (hleading hn).trans (by decide)
  rw [magnitudeChars]
  by_cases hpositional : plainStyle.leastPositional ≤ unit + (digitChars n).length - 1 ∧
      unit + (digitChars n).length - 1 < plainStyle.scientificFrom
  · rw [if_pos hpositional]
    by_cases hfraction : unit < 0
    · have hplaces : -((-unit).toNat : Int) = unit := by omega
      rw [if_pos hfraction, Decimal.magnitude?_pointed, hplaces]
      exact ⟨n, unit, hbounded, rfl⟩
    · obtain ⟨zeros, rfl⟩ := Int.eq_ofNat_of_zero_le (Int.not_lt.mp hfraction)
      have hmagnitude : Decimal.magnitude (n * 10 ^ (zeros + 1)) (-1) =
          Decimal.magnitude n zeros := by
        simp [Decimal.magnitude, pow_succ]
        field_simp
      rw [if_neg hfraction, Int.toNat_natCast, magnitude?_pointZero]
      refine ⟨_, _, bounded?_eq_some (by decide) (by decide) fun hn => ?_, hmagnitude⟩
      rw [hmagnitude]
      exact (hleading fun h => hn (by simp [h])).trans (by decide)
  · have hstops : ∀ rest, Decimal.StopsDigits ('e' :: rest) := by
      intro rest c hc
      obtain rfl := Option.mem_some_iff.mp hc
      decide
    have hpadded : ∀ k, paddedDigits plainStyle.exponentDigits k ≠ [] := fun k =>
      List.append_ne_nil_of_right_ne_nil _ Nat.toDigits_ne_nil
    have hexponent := Decimal.exponent?_of_digits
      (show Decimal.plainLower 'e' = 'e' by decide) (hpadded _)
      (fun c hc => isDigit_of_mem_paddedDigits hc)
      (digitsValue_paddedDigits _ (unit + (digitChars n).length - 1).natAbs)
    have hunit : unit + (digitChars n).length - 1 - ((digitChars n).length - 1) = unit := by omega
    rw [if_neg hpositional, Decimal.magnitude?_of_exponent? (hstops _) hexponent, hunit]
    exact ⟨n, unit, hbounded, rfl⟩

/-- The text of a magnitude is made of characters that are taken as they stand. -/
theorem isWritten_of_mem_magnitudeChars {style : Style} {n : Nat} {unit : Int} {c : Char}
    (h : c ∈ magnitudeChars style n unit) : Decimal.IsWritten c := by
  have hdigits : ∀ c ∈ digitChars n, c.isDigit = true := fun c hc => isDigit_of_mem_digitChars hc
  rw [magnitudeChars] at h
  by_cases hpositional : style.leastPositional ≤ unit + (digitChars n).length - 1 ∧
      unit + (digitChars n).length - 1 < style.scientificFrom
  · rw [if_pos hpositional] at h
    split_ifs at h
    · exact Decimal.isWritten_of_mem_pointed h
    · rcases List.mem_append.mp h with h | h
      · exact .inl ((List.mem_append.mp h).elim (hdigits c) isDigit_of_mem_replicate)
      · rcases List.mem_pair.mp h with rfl | rfl
        · exact .inr (by simp)
        · exact .inl rfl
  · rw [if_neg hpositional] at h
    exact Decimal.isWritten_of_mem_scientific hdigits (.inr (by simp))
      (fun c hc => isDigit_of_mem_paddedDigits hc) h

/-- Digits that are rounded to a number do not stand far to the left of the point. -/
theorem log_le_of_ofScientific_eq {negative : Bool} {x : Finite} {c : Nat} {e : Int} (hc : c ≠ 0)
    (h : ofScientific negative c e = .finite x) : Int.log 10 (Decimal.magnitude c e) ≤ 400 := by
  rw [← Decimal.adjusted_eq hc]
  by_contra hbeyond
  rw [ofScientific, if_neg hc, if_pos (Int.not_le.mp hbeyond)] at h
  cases h

namespace Finite

/-- **The text of a double is read** as a decimal with its sign and its shortest digits. -/
theorem exists_ofChars?_toChars (x : Finite) :
    ∃ c e, Decimal.ofChars? (finite x).toChars = some (.finite x.negative c e) ∧
      Decimal.magnitude c e = Decimal.magnitude x.shortest.1 x.shortest.2 := by
  obtain ⟨hshortest, hlow, hhigh⟩ := x.ofScientific_shortest
  obtain ⟨hdropped, hle, hge⟩ := dropTrailingZeros_spec 20 x.shortest.1 x.shortest.2
  have htext : (finite x).toChars = Decimal.signChars x.negative ++ magnitudeChars plainStyle
      (dropTrailingZeros 20 x.shortest.1 x.shortest.2).1
      (dropTrailingZeros 20 x.shortest.1 x.shortest.2).2 := rfl
  generalize dropTrailingZeros 20 x.shortest.1 x.shortest.2 = dropped at hdropped hle hge htext
  have hround := (ofScientific_congr x.negative hdropped).trans hshortest
  obtain ⟨c, e, hread, hmagnitude⟩ := exists_magnitude?_magnitudeChars x.negative
    dropped.1 (show -1500 ≤ dropped.2 by omega) (show dropped.2 ≤ 1500 by omega)
    fun hzero => (log_le_of_ofScientific_eq hzero hround).trans (by decide)
  have hchars : Decimal.numeralChars (finite x).toChars = (finite x).toChars := by
    refine Decimal.numeralChars_eq_self fun c hc => ?_
    rw [htext] at hc
    exact (List.mem_append.mp hc).elim Decimal.isWritten_of_mem_signChars
      isWritten_of_mem_magnitudeChars
  refine ⟨c, e, ?_, hmagnitude.trans hdropped⟩
  rw [Decimal.ofChars?_of_numeralChars (hchars.trans htext) (startsWithDigit_magnitudeChars ..),
    hread, Option.some_or]

/-- Nothing but a zero is written as zero. -/
theorem magnitude_shortest_eq_zero_iff (x : Finite) :
    Decimal.magnitude x.shortest.1 x.shortest.2 = 0 ↔ x.magnitude = 0 := by
  rw [Decimal.magnitude_eq_zero, magnitude_eq_zero]
  constructor
  · intro hzero
    have hround := x.ofScientific_shortest.1
    rw [ofScientific, if_pos hzero] at hround
    exact congrArg mantissa (finite.inj hround).symm
  · intro hzero
    rw [shortest, if_pos hzero]

/-- **Different doubles have different shortest digits.** -/
theorem magnitude_shortest_inj {x y : Finite} (hnegative : x.negative = y.negative)
    (h : Decimal.magnitude x.shortest.1 x.shortest.2 =
      Decimal.magnitude y.shortest.1 y.shortest.2) : x = y := by
  have hround := ofScientific_congr y.negative h
  rw [y.ofScientific_shortest.1, ← hnegative, x.ofScientific_shortest.1] at hround
  exact finite.inj hround

/-- **Two doubles are the same number** if and only if their shortest decimals are. -/
theorem toRat_toShortDecimal_eq_iff (x y : Finite) :
    (toShortDecimal (.finite x)).toRat = (toShortDecimal (.finite y)).toRat ↔
      x.toRat = y.toRat := by
  obtain ⟨c, e, hread, hmagnitude⟩ := x.exists_ofChars?_toChars
  obtain ⟨c', e', hread', hmagnitude'⟩ := y.exists_ofChars?_toChars
  rw [toShortDecimal, toShortDecimal, hread, hread', Option.getD_some, Option.getD_some,
    Decimal.toRat, Decimal.toRat, toRat, toRat, hmagnitude, hmagnitude',
    withSign_eq_iff (Decimal.magnitude_nonneg ..) (Decimal.magnitude_nonneg ..),
    withSign_eq_iff x.magnitude_nonneg y.magnitude_nonneg]
  by_cases hnegative : x.negative = y.negative
  · -- Numbers of one sign are those of the same double, or have different digits.
    have hsame : Decimal.magnitude x.shortest.1 x.shortest.2 =
        Decimal.magnitude y.shortest.1 y.shortest.2 ↔ x.magnitude = y.magnitude :=
      ⟨fun h => congrArg magnitude (magnitude_shortest_inj hnegative h),
        fun h => eq_of_magnitude_eq hnegative h ▸ rfl⟩
    rw [hsame]
    simp only [hnegative, true_or]
  · -- Of the two signs, only the zeros are the same number.
    have hx := x.magnitude_shortest_eq_zero_iff
    have hy := y.magnitude_shortest_eq_zero_iff
    simp only [hnegative, false_or]
    constructor
    · rintro ⟨heq, hzero⟩
      exact ⟨(hx.mp hzero).trans (hy.mp (heq ▸ hzero)).symm, hx.mp hzero⟩
    · rintro ⟨heq, hzero⟩
      exact ⟨(hx.mpr hzero).trans (hy.mpr (heq ▸ hzero)).symm, hx.mpr hzero⟩

end Finite

/-- **The text of a double is read back** as the same double, the zeros and the infinities included.
A NaN is read back as another one. -/
theorem ofText?_toText (x : Binary64) : ofText? x.toText = some (x.asNan .fresh) := by
  rw [ofText?, toText, Decimal.ofText?, String.toList_ofList]
  cases x with
  | finite y =>
    obtain ⟨c, e, hread, hmagnitude⟩ := y.exists_ofChars?_toChars
    rw [hread, Option.map_some, ofDecimal, ofScientific_congr y.negative hmagnitude,
      y.ofScientific_shortest.1]
    rfl
  | infinite negative => cases negative <;> rfl
  | nan which => rfl

end RuleFlow.Number.Binary64
