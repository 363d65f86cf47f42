import RuleFlow.Builtin.Basic
import RuleFlow.Proofs.Calendar.Months
import RuleFlow.Proofs.Ends
import RuleFlow.Proofs.Number.DoubleGrid

/-!
# Started days

The days between two dates are counted so that a started day counts in full. The difference is exact
in microseconds, but it becomes a double of seconds and another one of days before it is rounded up.
Where the dates are centuries apart, these have no bits left for microseconds, and a day that has
just been started is lost.

* `RuleFlow.OnDate.LosesStart` says when that happens.
* `RuleFlow.OnDate.daysUp_seconds` counts the days of a number of microseconds.
* `RuleFlow.Calendar.Temporal.microsBetween?_align` says what the exact difference of two dates is.
* `RuleFlow.OnDate.diffDays_isLeast` is the result.
-/

namespace RuleFlow

open Number Binary64 Calendar

namespace OnDate

variable {micros : Nat}

/-! ### Seconds and days as doubles -/

/-- **The start of a day is lost** when it is within half a unit of the last place of the seconds of
the days before it, these as a double. -/
def LosesStart (micros : Nat) : Prop :=
  0 < micros % 86400000000 ∧
    micros % 86400000000 * 2 ^ 53 ≤ 1000000 * 2 ^ Nat.log 2 (86400 * (micros / 86400000000))

instance (micros : Nat) : Decidable (LosesStart micros) :=
  inferInstanceAs (Decidable (_ ∧ _))

/-- The number of days, those that are started included. -/
def startedDays (micros : Nat) : Nat :=
  (micros + 86399999999) / 86400000000

/-- A double is rounded up. -/
theorem ratio_rounded_up (x : Finite) {n : Nat} (hlow : (n : ℚ) - 1 < x.magnitude)
    (hhigh : x.magnitude ≤ n) : (x.ratio.1 + x.ratio.2 - 1) / x.ratio.2 = n := by
  have hden := x.ratio_snd_pos
  have hden' : (0 : ℚ) < x.ratio.2 := by exact_mod_cast hden
  rw [← x.ratio_fst_div_snd] at hlow hhigh
  have hhigh' : x.ratio.1 ≤ n * x.ratio.2 := by
    rw [div_le_iff₀ hden'] at hhigh
    exact_mod_cast hhigh
  have hlow' : n * x.ratio.2 < x.ratio.1 + x.ratio.2 := by
    rw [lt_div_iff₀ hden', sub_mul, one_mul, sub_lt_iff_lt_add] at hlow
    exact_mod_cast hlow
  rw [Nat.div_eq_iff hden]
  omega

/-- **Days are rounded twice**, first the seconds and then their quotient, before they are rounded
up. -/
theorem exists_rounds (hpos : 0 < micros) (hshort : micros < 2 ^ 59) :
    ∃ seconds days, 2 ^ (-20 : ℤ) ≤ seconds ∧ Rounds ((micros : ℚ) / 1000000) seconds ∧
      Rounds (seconds / 86400) days ∧
      ∀ n : Nat, (n : ℚ) - 1 < days → days ≤ n → daysUp (OnDate.seconds micros) = n := by
  have hsome : (1 : ℚ) ≤ micros := by exact_mod_cast hpos
  have hfew : (micros : ℚ) < 2 ^ 59 := by exact_mod_cast hshort
  have hrange : ∀ q : ℚ, q ≤ micros → q < 2 ^ (1000 : ℤ) := fun q hq =>
    calc q ≤ micros := hq
      _ < 2 ^ (59 : ℤ) := hfew.trans_eq (zpow_ofNat 2 59).symm
      _ ≤ 2 ^ (1000 : ℤ) := zpow_le_zpow_right₀ (by norm_num) (by decide)
  obtain ⟨x, hx, hseconds⟩ := exists_ofRatio_eq false hpos (by decide : 0 < 1000000)
    (hrange _ (by rw [Nat.cast_ofNat]; linarith))
  rw [Nat.cast_ofNat] at hseconds
  have hlow : (2 : ℚ) ^ (-20 : ℤ) ≤ x.magnitude := by
    refine hseconds.zpow_le ?_ (by decide)
    norm_num
    linarith
  have hhigh : x.magnitude ≤ micros :=
    hseconds.le_natCast (by positivity) (by norm_num; linarith) (by linarith)
  have hmantissa : x.mantissa ≠ 0 := by
    rw [ne_eq, ← Finite.magnitude_eq_zero]
    exact ((zpow_pos (by norm_num) _).trans_le hlow).ne'
  have hratio : (x.ratio.1 : ℚ) / (x.ratio.2 * 86400 : Nat) = x.magnitude / 86400 := by
    rw [← x.ratio_fst_div_snd, div_div, Nat.cast_mul, Nat.cast_ofNat]
  obtain ⟨y, hy, hdays⟩ := exists_ofRatio_eq false (x.ratio_fst_pos hmantissa)
    (Nat.mul_pos x.ratio_snd_pos (by decide : 0 < 86400)) (hrange _ (by rw [hratio]; linarith))
  rw [hratio] at hdays
  refine ⟨x.magnitude, y.magnitude, hlow, hseconds, hdays, fun n hbelow habove => ?_⟩
  rw [seconds, hx, daysUp, hy]
  exact ratio_rounded_up y hbelow habove

/-- Seconds beyond those of some days are more days, also after they have been rounded. -/
theorem lt_days_of_add_unit_le {n : Nat} {seconds days : ℚ} (hn : n ≠ 0) (hshort : n < 2 ^ 52)
    (hdays : Rounds (seconds / 86400) days)
    (hseconds : (86400 * n : Nat) + (2 : ℚ) ^ (Nat.log 2 (86400 * n) - 52 : ℤ) ≤ seconds) :
    (n : ℚ) < days := by
  have hunit : (0 : ℚ) < 2 ^ (Nat.log 2 (86400 * n) - 52 : ℤ) := zpow_pos (by norm_num) _
  push_cast at hseconds
  -- A unit of the last place of the seconds is more than half a unit of that of the days.
  have hless : 86400 * (2 : ℚ) ^ (Nat.log 2 n - 53 : ℤ) < 2 ^ (Nat.log 2 (86400 * n) - 52 : ℤ) := by
    have hlow : 2 ^ Nat.log 2 n ≤ n := Nat.pow_log_le_self 2 hn
    have hhigh : 86400 * n < 2 ^ (Nat.log 2 (86400 * n) + 1) :=
      Nat.lt_pow_succ_log_self (by decide) _
    have hpowers : 86400 * (2 : ℚ) ^ Nat.log 2 n < 2 ^ (Nat.log 2 (86400 * n) + 1) := by
      exact_mod_cast (Nat.mul_le_mul_left 86400 hlow).trans_lt hhigh
    have hexponent : (Nat.log 2 (86400 * n) - 52 : ℤ) =
        (Nat.log 2 (86400 * n) + 1 : Nat) - (53 : Nat) := by omega
    have hexponent' : (Nat.log 2 n - 53 : ℤ) = (Nat.log 2 n : Nat) - (53 : Nat) := by omega
    rw [hexponent, hexponent', zpow_sub₀ (by norm_num), zpow_sub₀ (by norm_num), zpow_natCast,
      zpow_natCast, zpow_natCast, ← mul_div_assoc]
    gcongr
  have hbeyond := hdays.add_unit_le hn hshort (by linarith) (by linarith)
  have hpos : (0 : ℚ) < 2 ^ (Nat.log 2 n - 52 : ℤ) := zpow_pos (by norm_num) _
  linarith

/-- **Seconds are those of the whole days** and a rest. -/
theorem seconds_eq_days_add_rest (micros : Nat) :
    (micros : ℚ) / 1000000 = (86400 * (micros / 86400000000) : Nat) +
      (micros % 86400000000 : Nat) / 1000000 := by
  have hsum : micros = 86400 * (micros / 86400000000) * 1000000 + micros % 86400000000 := by omega
  nth_rewrite 1 [hsum]
  push_cast
  ring

theorem div_le_zpow_iff (rest k : Nat) :
    (rest : ℚ) / 1000000 ≤ 2 ^ (k - 53 : ℤ) ↔ rest * 2 ^ 53 ≤ 1000000 * 2 ^ k := by
  have hexponent : (k - 53 : ℤ) = (k : Nat) - (53 : Nat) := by omega
  rw [hexponent, zpow_sub₀ (by norm_num), zpow_natCast, zpow_natCast,
    div_le_div_iff₀ (by norm_num) (by positivity), mul_comm ((2 : ℚ) ^ k)]
  exact_mod_cast Iff.rfl

theorem natCast_lt_zpow {n : Nat} (h : n < 2 ^ 53) : (n : ℚ) < 2 ^ (53 : ℤ) := by
  rw [zpow_ofNat]
  exact_mod_cast h

section Rounded

variable {whole rest : Nat} {s d : ℚ}

/-- **Seconds stay between those of the whole days** and of one day more. -/
theorem seconds_between (hwhole : whole < 2 ^ 35) (hrest : rest < 86400000000)
    (hpos : 0 < ((86400 * whole : Nat) : ℚ) + (rest : ℚ) / 1000000)
    (hs : Rounds ((86400 * whole : Nat) + (rest : ℚ) / 1000000) s) :
    ((86400 * whole : Nat) : ℚ) ≤ s ∧ s ≤ ((86400 * (whole + 1) : Nat) : ℚ) := by
  have hseconds : (rest : ℚ) / 1000000 ≤ 86400 := by
    rw [div_le_iff₀ (by norm_num)]
    exact_mod_cast hrest.le
  have hbelow : ((86400 * whole : Nat) : ℚ) + (rest : ℚ) / 1000000 ≤
      ((86400 * (whole + 1) : Nat) : ℚ) := by
    push_cast
    linarith
  have hfew := hbelow.trans_lt (natCast_lt_zpow (by omega))
  exact ⟨hs.natCast_le hpos hfew (le_add_of_nonneg_right (by positivity)),
    hs.le_natCast hpos hfew hbelow⟩

/-- **So do the days.** -/
theorem days_between (hwhole : whole < 2 ^ 35) (hpos : 0 < s)
    (hs : ((86400 * whole : Nat) : ℚ) ≤ s ∧ s ≤ ((86400 * (whole + 1) : Nat) : ℚ))
    (hd : Rounds (s / 86400) d) : (whole : ℚ) ≤ d ∧ d ≤ ((whole + 1 : Nat) : ℚ) := by
  obtain ⟨hlow, hhigh⟩ := hs
  have hbelow : s / 86400 ≤ ((whole + 1 : Nat) : ℚ) := by
    push_cast at hhigh ⊢
    linarith
  have habove : (whole : ℚ) ≤ s / 86400 := by
    push_cast at hlow
    linarith
  have hfew := hbelow.trans_lt (natCast_lt_zpow (by omega))
  exact ⟨hd.natCast_le (by positivity) hfew habove, hd.le_natCast (by positivity) hfew hbelow⟩

/-- **A start that is close enough** to whole days is lost. -/
theorem days_le (hwhole : whole < 2 ^ 35) (hsome : whole ≠ 0)
    (hs : Rounds ((86400 * whole : Nat) + (rest : ℚ) / 1000000) s) (hd : Rounds (s / 86400) d)
    (hnear : (rest : ℚ) / 1000000 ≤ 2 ^ (Nat.log 2 (86400 * whole) - 53 : ℤ)) : d ≤ whole := by
  have hmoved : s = (86400 * whole : Nat) :=
    hs.eq_natCast (by omega) (by omega) (le_add_of_nonneg_right (by positivity)) (by linarith)
  have hdays : s / 86400 = whole := by
    rw [hmoved]
    push_cast
    linarith
  have hpos : (0 : ℚ) < whole := by exact_mod_cast Nat.pos_of_ne_zero hsome
  rw [hdays] at hd
  exact hd.le_natCast hpos (natCast_lt_zpow (by omega)) le_rfl

/-- **Any other start** makes it more than the whole days. -/
theorem lt_days (hwhole : whole < 2 ^ 35) (hleast : 2 ^ (-20 : ℤ) ≤ s)
    (hs : Rounds ((86400 * whole : Nat) + (rest : ℚ) / 1000000) s) (hd : Rounds (s / 86400) d)
    (hfar : ¬(rest : ℚ) / 1000000 ≤ 2 ^ (Nat.log 2 (86400 * whole) - 53 : ℤ)) :
    (whole : ℚ) < d := by
  by_cases hsome : whole = 0
  · subst hsome
    have hlow : (2 : ℚ) ^ (-37 : ℤ) ≤ d := by
      refine hd.zpow_le ?_ (by decide)
      norm_num at hleast ⊢
      linarith
    rw [Nat.cast_zero]
    exact (zpow_pos (by norm_num) _).trans_le hlow
  · refine lt_days_of_add_unit_le hsome (by omega) hd ?_
    exact hs.add_unit_le (by omega) (by omega) (le_add_of_nonneg_right (by positivity))
      (by linarith)

end Rounded

/-- No time is no day. -/
theorem daysUp_seconds_zero : daysUp (seconds 0) = 0 := by
  have hzero : seconds 0 = zero false := by rw [seconds, ofRatio, if_pos rfl]
  have hratio : (Finite.ratio ⟨false, 0, -1074, by decide⟩).1 = 0 := by
    rw [Finite.ratio, if_neg (by decide)]
  rw [hzero, zero, daysUp, hratio, ofRatio, if_pos rfl]
  exact ratio_rounded_up _ (by simp [Finite.magnitude]) (by simp [Finite.magnitude])

/-- **The days of a number of microseconds**: those that are started are counted, unless the last
start is lost. -/
theorem daysUp_seconds (hshort : micros < 2 ^ 59) :
    daysUp (seconds micros) =
      if LosesStart micros then micros / 86400000000 else startedDays micros := by
  rcases Nat.eq_zero_or_pos micros with rfl | hpos
  · exact daysUp_seconds_zero
  obtain ⟨s, d, hleast, hs, hd, hresult⟩ := exists_rounds hpos hshort
  obtain ⟨whole, hwhole⟩ : ∃ whole, whole = micros / 86400000000 := ⟨_, rfl⟩
  obtain ⟨rest, hrest⟩ : ∃ rest, rest = micros % 86400000000 := ⟨_, rfl⟩
  have hexact : (micros : ℚ) / 1000000 = (86400 * whole : Nat) + (rest : ℚ) / 1000000 := by
    rw [hwhole, hrest]
    exact seconds_eq_days_add_rest micros
  have hpos' : (0 : ℚ) < micros / 1000000 := by positivity
  rw [hexact] at hs hpos'
  have hbetween := seconds_between (by omega) (by omega) hpos' hs
  obtain ⟨hlow, hhigh⟩ := days_between (by omega) ((zpow_pos (by norm_num) _).trans_le hleast)
    hbetween hd
  have hloses : LosesStart micros ↔
      0 < rest ∧ rest * 2 ^ 53 ≤ 1000000 * 2 ^ Nat.log 2 (86400 * whole) := by
    rw [LosesStart, ← hwhole, ← hrest]
  by_cases hnear : rest * 2 ^ 53 ≤ 1000000 * 2 ^ Nat.log 2 (86400 * whole)
  · have hsome : whole ≠ 0 := by
      rintro rfl
      rw [Nat.mul_zero, Nat.log_zero_right] at hnear
      omega
    rw [hresult whole (by linarith)
      (days_le (by omega) hsome hs hd ((div_le_zpow_iff rest _).mpr hnear))]
    split_ifs with hlost
    · exact hwhole
    · have hzero : rest = 0 := by
        by_contra hrest'
        exact hlost (hloses.mpr ⟨Nat.pos_of_ne_zero hrest', hnear⟩)
      rw [startedDays]
      omega
  · have hdays := lt_days (by omega) hleast hs hd (mt (div_le_zpow_iff rest _).mp hnear)
    rw [hresult (whole + 1) (by push_cast; linarith) hhigh,
      if_neg fun hlost => hnear (hloses.mp hlost).2]
    have hrest' : rest ≠ 0 := by
      rintro rfl
      exact hnear (by rw [Nat.zero_mul]; exact Nat.zero_le _)
    rw [startedDays]
    omega

/-- **The days that are started** are the fewest that cover the time. -/
theorem isLeast_startedDays (micros : Nat) :
    IsLeast {m : ℤ | (micros : ℤ) ≤ m * microsPerDay} (startedDays micros) := by
  constructor
  · change (micros : ℤ) ≤ startedDays micros * 86400000000
    rw [startedDays]
    omega
  · intro m hm
    replace hm : (micros : ℤ) ≤ m * 86400000000 := hm
    rw [startedDays]
    omega

/-- A start that is lost would be one day more. -/
theorem startedDays_of_losesStart (h : LosesStart micros) :
    startedDays micros = micros / 86400000000 + 1 := by
  have hrest := h.1
  rw [startedDays]
  omega

/-- **No start is lost** within five hundred and forty-four years. -/
theorem not_losesStart_of_lt (h : micros < 198841 * 86400000000) : ¬LosesStart micros := by
  rintro ⟨hrest, hnear⟩
  have hlog : Nat.log 2 (86400 * (micros / 86400000000)) ≤ 33 := by
    have hless : Nat.log 2 (86400 * (micros / 86400000000)) < 34 :=
      Nat.log_lt_of_lt_pow' (by decide) (by omega)
    omega
  have hpow : 2 ^ Nat.log 2 (86400 * (micros / 86400000000)) ≤ 2 ^ 33 :=
    Nat.pow_le_pow_right (by decide) hlog
  omega

end OnDate

/-! ### The exact difference -/

namespace Calendar

theorem TimeOfDay.micros_lt (t : TimeOfDay) : (t.micros : ℤ) < microsPerDay := by
  obtain ⟨hhour, hminute, hsecond, hmicro⟩ := t.valid
  rw [micros, microsPerDay]
  omega

/-- Midnight is the instant of the day itself. -/
theorem Moment.instant_midnight (d : Date) (offset : Option Offset) :
    instant ⟨d, .midnight, offset⟩ = d.ordinal * microsPerDay - offset.elim 0 Offset.micros := by
  rw [instant, clock, show TimeOfDay.midnight.micros = 0 from rfl, Nat.cast_zero, Int.add_zero]

namespace Temporal

variable {t u : Temporal}

/-- **The two sides of a difference** both have an offset or both have none, where a date takes that
of the other side. -/
def SameFooting : Temporal → Temporal → Prop
  | .moment m, .moment n => m.offset.isSome = n.offset.isSome
  | _, _ => True

theorem SameFooting.symm (h : t.SameFooting u) : u.SameFooting t := by
  cases t with
  | day d => cases u <;> trivial
  | moment m =>
    cases u with
    | day e => trivial
    | moment n => exact Eq.symm h

/-- **The instant of a temporal value beside another one**: a date stands for its midnight, at the
offset of the other value. -/
def instantBeside (t beside : Temporal) : Int :=
  match t, beside with
  | .moment m, _ => m.instant
  | .day d, .moment m => d.ordinal * microsPerDay - m.offset.elim 0 Offset.micros
  | .day d, .day _ => d.ordinal * microsPerDay

/-- **The time between two temporal values**, in microseconds. -/
def microsApart (t u : Temporal) : Nat :=
  (u.instantBeside t - t.instantBeside u).natAbs

theorem microsApart_comm (t u : Temporal) : u.microsApart t = t.microsApart u := by
  rw [microsApart, microsApart, ← Int.natAbs_neg, Int.neg_sub]

/-- **The difference of aligned values** is that of their instants. -/
theorem microsBetween?_align (h : t.SameFooting u) :
    (t.align u).1.microsBetween? (t.align u).2 =
      some (u.instantBeside t - t.instantBeside u) := by
  cases t with
  | day d =>
    cases u with
    | day e => exact congrArg some (Int.sub_mul _ _ _)
    | moment n =>
      rw [align, atMidnight, microsBetween?, if_pos rfl, Moment.instant_midnight]
      rfl
  | moment m =>
    cases u with
    | day e =>
      rw [align, atMidnight, microsBetween?, if_pos rfl, Moment.instant_midnight]
      rfl
    | moment n => exact if_pos h

/-- An instant lies within the calendar, or less than a day beside it. -/
theorem instantBeside_bounds (t u : Temporal) :
    -microsPerDay ≤ t.instantBeside u ∧ t.instantBeside u ≤ 3652061 * microsPerDay := by
  have hoffset : ∀ offset : Option Offset, -microsPerDay < offset.elim 0 Offset.micros ∧
      offset.elim 0 Offset.micros < microsPerDay := fun offset => by
    cases offset with
    | none => decide
    | some o => exact o.valid
  have hday : ∀ d : Date, 0 ≤ (d.ordinal : ℤ) * microsPerDay ∧
      (d.ordinal : ℤ) * microsPerDay ≤ 3652059 * microsPerDay := fun d => by
    have hbound := d.ordinal_le
    rw [microsPerDay]
    omega
  cases t with
  | day d =>
    have hdays := hday d
    cases u with
    | day e =>
      rw [instantBeside]
      rw [microsPerDay] at *
      omega
    | moment m =>
      have hshift := hoffset m.offset
      rw [instantBeside]
      rw [microsPerDay] at *
      omega
  | moment m =>
    have hdays := hday m.date
    have hshift := hoffset m.offset
    have htime := m.time.micros_lt
    rw [instantBeside, Moment.instant, Moment.clock]
    rw [microsPerDay] at *
    omega

/-- The time between two values is short enough for doubles to tell its days apart. -/
theorem microsApart_lt (t u : Temporal) : t.microsApart u < 2 ^ 59 := by
  have ht := t.instantBeside_bounds u
  have hu := u.instantBeside_bounds t
  rw [microsPerDay] at ht hu
  rw [microsApart]
  omega

/-- **A value some days later** is as many days apart. -/
theorem microsApart_addDays {n : Int} (h : t.addDays n = .ok u) :
    t.SameFooting u ∧ t.microsApart u = n.natAbs * 86400000000 := by
  obtain ⟨d, hd, rfl⟩ := map_eq_ok.mp h
  have hnumber := Date.ordinal_of_addDays hd
  cases t with
  | day e =>
    have hdays : (day e).microsApart (day d) =
        ((d.ordinal : ℤ) * microsPerDay - e.ordinal * microsPerDay).natAbs := rfl
    rw [date] at hnumber
    refine ⟨trivial, hdays.trans ?_⟩
    rw [hnumber, microsPerDay]
    omega
  | moment m =>
    have hmoments : (moment m).microsApart (moment { m with date := d }) =
        ((d.ordinal : ℤ) * microsPerDay + m.time.micros - m.offset.elim 0 Offset.micros -
          (m.date.ordinal * microsPerDay + m.time.micros - m.offset.elim 0 Offset.micros)).natAbs :=
      rfl
    rw [date] at hnumber
    refine ⟨rfl, hmoments.trans ?_⟩
    rw [hnumber, microsPerDay]
    omega

end Temporal

end Calendar

/-! ### Differences as a built-in -/

namespace OnDate

variable {first second count w : Value} {t u : Temporal} {n : ℤ}

/-- What is answered for two dates that have a difference. -/
theorem invoke_diffDays (hfirst : first.temporal? = some t) (hsecond : second.temporal? = some u)
    (hfooting : t.SameFooting u) :
    Builtin.diffDays.invoke [first, second] =
      .success (.decimal (.ofInt
        (if LosesStart (t.microsApart u) then t.microsApart u / 86400000000
          else startedDays (t.microsApart u) : Nat))) := by
  have happly : Builtin.diffDays.apply [first, second] =
      Answer.whole (daysUp (seconds (t.microsApart u))) := by
    change diffDays first second = _
    rw [diffDays, Answer.withDate, hfirst]
    dsimp only
    rw [Answer.withDate, hsecond]
    dsimp only
    rw [Temporal.microsBetween?_align hfooting]
    rfl
  rw [Builtin.invoke, happly, daysUp_seconds (t.microsApart_lt u)]
  rfl

/-- What is answered for a date some days later. -/
theorem exists_of_invoke_addDays (hfirst : first.temporal? = some t) (hcount : count.toWhole = .ok n)
    (h : Builtin.addDays.invoke [first, count] = .success w) :
    ∃ u, t.addDays n = .ok u ∧ w = .temporal u := by
  have happly : Builtin.addDays.apply [first, count] = moved "days" Temporal.addDays first count := rfl
  rw [Builtin.invoke, happly] at h
  by_cases hnumber : count.isNumber = true
  · rw [moved_eq hfirst hnumber hcount] at h
    cases hlater : t.addDays n with
    | ok u =>
      rw [hlater] at h
      exact ⟨u, rfl, (Outcome.success.inj h).symm⟩
    | error e =>
      rw [hlater] at h
      cases h
  · rw [moved, Answer.withDate, hfirst] at h
    dsimp only at h
    rw [Answer.withNumber, if_neg hnumber] at h
    cases h

/-- **The days between two dates are counted exactly**, started days in full, unless the start of the
last day is lost: then the count is one less. It is the same from either side, and a date is as many
days from a later one as were added to it. -/
theorem diffDays_isLeast (hfirst : first.temporal? = some t) (hsecond : second.temporal? = some u)
    (hfooting : t.SameFooting u) :
    ∃ k : ℤ, Builtin.diffDays.invoke [first, second] = .success (.decimal (.ofInt k)) ∧
      Builtin.diffDays.invoke [second, first] = .success (.decimal (.ofInt k)) ∧
      IsLeast {m : ℤ | (t.microsApart u : ℤ) ≤ m * microsPerDay}
        (if LosesStart (t.microsApart u) then k + 1 else k) ∧
      ∀ count n w, count.toWhole = .ok n →
        Builtin.addDays.invoke [first, count] = .success w →
          Builtin.diffDays.invoke [first, w] = .success (.decimal (.ofInt |n|)) := by
  refine ⟨_, invoke_diffDays hfirst hsecond hfooting, ?swapped, ?least, ?added⟩
  case swapped =>
    rw [invoke_diffDays hsecond hfirst hfooting.symm, t.microsApart_comm u]
  case least =>
    have hleast := isLeast_startedDays (t.microsApart u)
    split_ifs with hloses
    · rw [startedDays_of_losesStart hloses] at hleast
      exact hleast
    · exact hleast
  case added =>
    intro count n w hcount hinvoke
    obtain ⟨later, hlater, rfl⟩ := exists_of_invoke_addDays hfirst hcount hinvoke
    obtain ⟨hsame, hdays⟩ := Temporal.microsApart_addDays hlater
    have hexact : ¬LosesStart (t.microsApart later) := fun hloses => by
      have hrest := hloses.1
      omega
    have hstarted : (startedDays (t.microsApart later) : ℤ) = |n| := by
      rw [startedDays, hdays, Int.abs_eq_natAbs]
      omega
    rw [invoke_diffDays hfirst rfl hsame, if_neg hexact, hstarted]

/-! ### The first day and the last one -/

/-- The first day of the calendar. -/
def firstDay : Temporal :=
  .day ⟨1, 1, 1, by decide⟩

/-- The last day of the calendar, when it has just been started. -/
def lastDayStarted : Temporal :=
  .moment ⟨⟨9999, 12, 31, by decide⟩, ⟨0, 0, 0, 1, by decide⟩, none⟩

theorem firstDay_diffDays_isLeast :
    (Value.temporal firstDay).temporal? = some firstDay ∧
      (Value.temporal lastDayStarted).temporal? = some lastDayStarted ∧
      firstDay.SameFooting lastDayStarted ∧
      ∃ k : ℤ,
        Builtin.diffDays.invoke [.temporal firstDay, .temporal lastDayStarted] =
            .success (.decimal (.ofInt k)) ∧
          Builtin.diffDays.invoke [.temporal lastDayStarted, .temporal firstDay] =
            .success (.decimal (.ofInt k)) ∧
          IsLeast {m : ℤ | (firstDay.microsApart lastDayStarted : ℤ) ≤ m * microsPerDay}
            (if LosesStart (firstDay.microsApart lastDayStarted) then k + 1 else k) ∧
          ∀ count n w, count.toWhole = .ok n →
            Builtin.addDays.invoke [.temporal firstDay, count] = .success w →
              Builtin.diffDays.invoke [.temporal firstDay, w] =
                .success (.decimal (.ofInt |n|)) :=
  ⟨rfl, rfl, trivial, diffDays_isLeast rfl rfl trivial⟩

theorem microsApart_firstDay :
    firstDay.microsApart lastDayStarted = 3652058 * 86400000000 + 1 := by
  rfl

/-- **The start of the last day is lost** beside the first day of the calendar. -/
theorem lastDay_start_lost :
    Builtin.diffDays.invoke [.temporal firstDay, .temporal lastDayStarted] =
        .success (.decimal (.ofInt 3652058)) ∧
      ¬∀ first second t u k, first.temporal? = some t → second.temporal? = some u →
        t.SameFooting u →
          Builtin.diffDays.invoke [first, second] = .success (.decimal (.ofInt k)) →
            IsLeast {m : ℤ | (t.microsApart u : ℤ) ≤ m * microsPerDay} k := by
  have hloses : LosesStart (firstDay.microsApart lastDayStarted) := by
    rw [microsApart_firstDay]
    decide +kernel
  have hfirst : (Value.temporal firstDay).temporal? = some firstDay := rfl
  have hsecond : (Value.temporal lastDayStarted).temporal? = some lastDayStarted := rfl
  have hfooting : firstDay.SameFooting lastDayStarted := trivial
  have hinvoke : Builtin.diffDays.invoke [.temporal firstDay, .temporal lastDayStarted] =
      .success (.decimal (.ofInt 3652058)) := by
    rw [invoke_diffDays hfirst hsecond hfooting, if_pos hloses, microsApart_firstDay]
    rfl
  refine ⟨hinvoke, fun h => ?_⟩
  have hcovers : (firstDay.microsApart lastDayStarted : ℤ) ≤ 3652058 * 86400000000 :=
    (h _ _ _ _ _ hfirst hsecond hfooting hinvoke).1
  rw [microsApart_firstDay] at hcovers
  omega

end OnDate

end RuleFlow
