import Mathlib.Data.Int.Order.Basic
import Mathlib.Data.Nat.Basic
import Mathlib.Order.Compare
import Mathlib.Tactic.ByContra
import Mathlib.Tactic.SplitIfs
import RuleFlow.Calendar.Moment

/-!
# Days and their numbers

A day is counted by the days of the years before, the days of the months before in its year, and its
day of the month. Each of the three counts stays below what the next step of the count before it
adds, so that days are numbered in the order of their fields, and no two have one number.

* `RuleFlow.Calendar.Date.Before` is the order of the fields.
* `RuleFlow.Calendar.Date.daysBeforeMonth_add_le` and
  `RuleFlow.Calendar.Date.daysBeforeYear_add_le` bound a month and a year by the next ones.
* `RuleFlow.Calendar.Date.ordinal_lt_iff` and `RuleFlow.Calendar.Date.ordinal_inj` are the results.
* `RuleFlow.Calendar.Date.ordinal_of_ofOrdinal?`: the day that is found for a number has it.
* `RuleFlow.Calendar.Temporal.same_eq_of_compare?`: temporal values that have an order are equal
  where it says so.
-/

namespace RuleFlow.Calendar

namespace Date

/-! ### The days of a month and of a year -/

/-- The days of a year, those of all twelve months. -/
theorem daysBeforeMonth_thirteen (year : Nat) :
    daysBeforeMonth year 13 = if isLeap year then 366 else 365 := by
  simp only [daysBeforeMonth, daysInMonth]
  cases isLeap year <;> rfl

/-- **A month ends before a later one begins.** -/
theorem daysBeforeMonth_add_le (year : Nat) {month later : Nat} (hmonth : 1 ≤ month)
    (hlater : month < later) :
    daysBeforeMonth year month + daysInMonth year month ≤ daysBeforeMonth year later := by
  induction later, hlater using Nat.le_induction with
  | base => rw [daysBeforeMonth, if_neg (by omega)]
  | succ last hlast ih =>
    rw [daysBeforeMonth, if_neg (by omega)]
    omega

/-- **A year is as long as its months.** -/
theorem daysBeforeYear_succ {year : Nat} (h : 1 ≤ year) :
    daysBeforeYear (year + 1) = daysBeforeYear year + daysBeforeMonth year 13 := by
  obtain ⟨past, rfl⟩ := Nat.exists_eq_add_of_le' h
  have hdiv : ∀ k, (past + 1) / k = past / k + if (past + 1) % k = 0 then 1 else 0 := fun k => by
    rw [Nat.succ_div]
    simp only [Nat.dvd_iff_mod_eq_zero]
  -- The quotients that are subtracted are never larger than those they are subtracted from.
  have hcenturies : past / 100 ≤ past / 4 := Nat.div_le_div_left (by decide) (by decide)
  rw [daysBeforeMonth_thirteen]
  simp only [daysBeforeYear, isLeap, Nat.add_sub_cancel, hdiv, Bool.and_eq_true, Bool.or_eq_true,
    beq_iff_eq, bne_iff_ne]
  generalize past / 4 = fours at *
  generalize past / 100 = hundreds at *
  generalize past / 400 = eras
  have hhundred : (past + 1) % 400 = 0 → (past + 1) % 100 = 0 := by omega
  have hfour : (past + 1) % 100 = 0 → (past + 1) % 4 = 0 := by omega
  split_ifs
  all_goals grind

/-- **A year ends before a later one begins.** -/
theorem daysBeforeYear_add_le {year later : Nat} (hyear : 1 ≤ year) (hlater : year < later) :
    daysBeforeYear year + daysBeforeMonth year 13 ≤ daysBeforeYear later := by
  induction later, hlater using Nat.le_induction with
  | base => exact (daysBeforeYear_succ hyear).ge
  | succ last hlast ih =>
    rw [daysBeforeYear_succ (by omega)]
    omega

/-! ### The order of days -/

/-- **A date before another**: in an earlier year, or an earlier month of the same, or on an earlier
day. -/
def Before (d e : Date) : Prop :=
  d.year < e.year ∨ d.year = e.year ∧
    (d.month < e.month ∨ d.month = e.month ∧ d.day < e.day)

/-- A date lies in its year. -/
theorem daysBeforeMonth_add_day_le (d : Date) :
    daysBeforeMonth d.year d.month + d.day ≤ daysBeforeMonth d.year 13 := by
  obtain ⟨-, -, hmonth, hmonths, -, hdays⟩ := d.valid
  have hbound := daysBeforeMonth_add_le d.year hmonth (by omega : d.month < 13)
  omega

theorem ordinal_lt_of_before {d e : Date} (h : d.Before e) : d.ordinal < e.ordinal := by
  obtain ⟨hyear, -, hmonth, -, -, hdays⟩ := d.valid
  obtain ⟨-, -, -, -, hday, -⟩ := e.valid
  rw [ordinal, ordinal, ordinalOf, ordinalOf]
  rcases h with hyears | ⟨hyears, hmonths | ⟨hmonths, hless⟩⟩
  · have hbound := daysBeforeYear_add_le hyear hyears
    have hwithin := d.daysBeforeMonth_add_day_le
    omega
  · rw [← hyears]
    have hbound := daysBeforeMonth_add_le d.year hmonth hmonths
    omega
  · rw [← hyears, ← hmonths]
    omega

/-- Of two different dates, one is before the other. -/
theorem before_or_before {d e : Date} (h : d ≠ e) : d.Before e ∨ e.Before d := by
  by_contra hno
  rw [Before, Before] at hno
  have hfields : d.year = e.year ∧ d.month = e.month ∧ d.day = e.day := by omega
  obtain ⟨year, month, day, hvalid⟩ := d
  obtain ⟨year', month', day', hvalid'⟩ := e
  obtain ⟨rfl, rfl, rfl⟩ := hfields
  exact h rfl

/-- **No two days have one number.** -/
theorem ordinal_inj {d e : Date} : d.ordinal = e.ordinal ↔ d = e := by
  refine ⟨fun h => ?_, congrArg ordinal⟩
  by_contra hne
  rcases before_or_before hne with hbefore | hbefore
  · exact (ordinal_lt_of_before hbefore).ne h
  · exact (ordinal_lt_of_before hbefore).ne' h

/-- **Days are numbered in their order.** -/
theorem ordinal_lt_iff {d e : Date} : d.ordinal < e.ordinal ↔ d.Before e := by
  refine ⟨fun h => ?_, ordinal_lt_of_before⟩
  have hne : d ≠ e := fun heq => h.ne (congrArg ordinal heq)
  exact (before_or_before hne).resolve_right fun hbefore => h.not_gt (ordinal_lt_of_before hbefore)

/-- The calendar has no more days than the years before the year 10000. -/
theorem ordinal_le (d : Date) : d.ordinal ≤ 3652059 := by
  obtain ⟨hyear, hyears, -⟩ := d.valid
  have hwithin := d.daysBeforeMonth_add_day_le
  have hbound := daysBeforeYear_add_le hyear (by omega : d.year < 10000)
  have hlast : daysBeforeYear 10000 = 3652059 := rfl
  rw [ordinal, ordinalOf]
  omega

/-! ### The day with a number -/

/-- Going on from a month to later ones keeps the day of the year. -/
theorem daysBeforeMonth_monthAndDay (year : Nat) {fuel month rest : Nat} (hmonth : 1 ≤ month) :
    daysBeforeMonth year (monthAndDay year fuel month rest).1 +
        (monthAndDay year fuel month rest).2 =
      daysBeforeMonth year month + rest + 1 := by
  induction fuel generalizing month rest with
  | zero => rfl
  | succ fuel ih =>
    rw [monthAndDay]
    split_ifs with hwithin
    · rfl
    · rw [ih (by omega), daysBeforeMonth, if_neg (by omega)]
      omega

/-- The days before a year, by the cycles of 400, 100, 4 and 1 years. -/
theorem daysBeforeYear_cycles {eras centuries fours years : Nat} (hcenturies : centuries ≤ 3)
    (hfours : fours ≤ 24) (hyears : years ≤ 3) :
    daysBeforeYear (400 * eras + 100 * centuries + 4 * fours + years + 1) =
      146097 * eras + 36524 * centuries + 1461 * fours + 365 * years := by
  simp only [daysBeforeYear]
  omega

/-- **The fields that are found for a number** have it. -/
theorem ordinalOf_fieldsOfOrdinal {n : Nat} (hn : 1 ≤ n) :
    ordinalOf (fieldsOfOrdinal n).1 (fieldsOfOrdinal n).2.1 (fieldsOfOrdinal n).2.2 = n := by
  rw [fieldsOfOrdinal]
  simp only []
  rw [ordinalOf, Nat.add_assoc, daysBeforeMonth_monthAndDay _ (by omega),
    daysBeforeYear_cycles (by omega) (by omega) (by omega), daysBeforeMonth, if_pos rfl]
  omega

theorem ordinal_of_ofOrdinal? {n : Int} {d : Date} (h : ofOrdinal? n = some d) :
    (d.ordinal : Int) = n := by
  rw [ofOrdinal?] at h
  split_ifs at h with hn
  dsimp only at h
  split_ifs at h with hvalid
  obtain rfl := Option.some.inj h
  rw [ordinal, ordinalOf_fieldsOfOrdinal (by omega)]
  omega

/-- **A date some days later** has a number that is larger by as many. -/
theorem ordinal_of_addDays {d e : Date} {n : Int} (h : d.addDays n = .ok e) :
    (e.ordinal : Int) = d.ordinal + n := by
  rw [addDays] at h
  split_ifs at h
  split at h
  next later hlater =>
    obtain rfl := Except.ok.inj h
    exact ordinal_of_ofOrdinal? hlater
  next => exact nomatch h

end Date

/-! ### Temporal values -/

namespace Temporal

variable {t u : Temporal} {o : Ordering}

/-- **Alignment from either side.** -/
theorem align_swap (t u : Temporal) : u.align t = (t.align u).swap := by
  cases t <;> cases u <;> rfl

/-- **Equality of temporal values from either side.** -/
theorem same_comm (t u : Temporal) : t.same u = u.same t := by
  cases t with
  | day d =>
    cases u with
    | day e => exact BEq.comm
    | moment n => rfl
  | moment m =>
    cases u with
    | day e => rfl
    | moment n =>
      rw [same, same, BEq.comm (a := m.offset.isSome), BEq.comm (a := m.instant)]

/-- The difference from either side. -/
theorem microsBetween?_swap (t u : Temporal) :
    microsBetween? u t = (microsBetween? t u).map fun d => -d := by
  cases t with
  | day d =>
    cases u with
    | day e =>
      rw [microsBetween?, microsBetween?, Option.map_some, ← Int.neg_mul, Int.neg_sub]
    | moment n => rfl
  | moment m =>
    cases u with
    | day e => rfl
    | moment n =>
      rw [microsBetween?, microsBetween?]
      by_cases h : m.offset.isSome = n.offset.isSome
      · rw [if_pos h, if_pos h.symm, Option.map_some, Int.neg_sub]
      · rw [if_neg h, if_neg (Ne.symm h), Option.map_none]

/-- **The order of temporal values from either side**, if they have one. -/
theorem compare?_swap (t u : Temporal) : u.compare? t = (t.compare? u).map Ordering.swap := by
  rw [compare?, compare?, microsBetween?_swap u t, Option.map_map, Option.map_map]
  refine congrArg (Option.map · _) (funext fun d => ?_)
  simp only [Function.comp_apply]
  rcases lt_trichotomy d 0 with hneg | rfl | hpos
  · rw [compare_lt_iff_lt.mpr hneg, compare_gt_iff_gt.mpr (by omega : -d > 0)]
    rfl
  · rfl
  · rw [compare_gt_iff_gt.mpr hpos, compare_lt_iff_lt.mpr (by omega : -d < 0)]
    rfl

/-- **Temporal values that have an order** are equal where it says so. -/
theorem same_eq_of_compare? (h : t.compare? u = some o) : t.same u = (o == .eq) := by
  rw [compare?, Option.map_eq_some_iff] at h
  obtain ⟨d, hd, rfl⟩ := h
  have hzero : ((compare d 0 : Ordering) == .eq) = decide (d = 0) := by
    rw [Bool.eq_iff_iff, beq_iff_eq, compare_eq_iff_eq, decide_eq_true_iff]
  rw [hzero]
  cases t with
  | day d₁ =>
    cases u with
    | day d₂ =>
      obtain rfl := Option.some.inj hd
      rw [same, beq_eq_decide]
      refine decide_eq_decide.mpr (Date.ordinal_inj.symm.trans ?_)
      rw [microsPerDay]
      omega
    | moment n => exact nomatch hd
  | moment m =>
    cases u with
    | day d₂ => exact nomatch hd
    | moment n =>
      rw [microsBetween?] at hd
      split_ifs at hd with hoffset
      obtain rfl := Option.some.inj hd
      rw [same, hoffset, beq_self_eq_true, Bool.true_and, beq_eq_decide]
      exact decide_eq_decide.mpr (by omega)

end Temporal

end RuleFlow.Calendar
