import RuleFlow.Builtin.Basic
import RuleFlow.Proofs.Calendar.DayNumber

/-!
# Moving by months

Months are numbered through, twelve to a year, and a date is moved by adding to the number of its
month. The day is kept as far as the new month has it. So it is the months that are moved exactly,
while days are only ever cut down to the end of a month; 28 days every month has.

* `RuleFlow.Calendar.Date.InCalendar` are the numbers of the months from the year 1 to the year
  9999, and `RuleFlow.Calendar.Date.exists_shiftMonths` what moving a date comes to.
* `RuleFlow.Calendar.Date.ordinal_le_iff`: days are ordered by their months, then by the day of the
  month, which is why moving by months keeps the order of dates.
* `RuleFlow.Calendar.Temporal.shiftMonths_lawful` puts the laws together, for dates and moments and
  for the functions that move them.
-/

namespace RuleFlow

namespace Calendar

namespace Date

variable {d e : Date} {months : Int}

/-! ### The numbers of months -/

/-- **The calendar has a month of that number**: it lies in one of the years from 1 to 9999. -/
def InCalendar (index : Int) : Prop :=
  1 ≤ index.fdiv 12 ∧ index.fdiv 12 ≤ 9999

instance (index : Int) : Decidable (InCalendar index) :=
  inferInstanceAs (Decidable (_ ∧ _))

/-- Two dates of one month have year and month in common. -/
theorem monthIndex_inj :
    d.monthIndex = e.monthIndex ↔ d.year = e.year ∧ d.month = e.month := by
  obtain ⟨-, -, hd, hd', -, -⟩ := d.valid
  obtain ⟨-, -, he, he', -, -⟩ := e.valid
  simp only [monthIndex]
  omega

/-- **Days are ordered by month**, and within a month by the day. -/
theorem before_iff :
    d.Before e ↔ d.monthIndex < e.monthIndex ∨ d.monthIndex = e.monthIndex ∧ d.day < e.day := by
  obtain ⟨-, -, hd, hd', -, -⟩ := d.valid
  obtain ⟨-, -, he, he', -, -⟩ := e.valid
  simp only [Before, monthIndex]
  omega

theorem ordinal_le_iff :
    d.ordinal ≤ e.ordinal ↔
      d.monthIndex < e.monthIndex ∨ d.monthIndex = e.monthIndex ∧ d.day ≤ e.day := by
  rw [← Nat.not_lt, ordinal_lt_iff, before_iff]
  omega

/-- Every month has 28 days. -/
theorem twentyEight_le_daysInMonth (year month : Nat) : 28 ≤ daysInMonth year month := by
  rw [daysInMonth.eq_def]
  split
  · split_ifs <;> decide
  all_goals decide

/-! ### Moving a date -/

/-- **A date is moved to another month**: the day is kept, or cut down to the last one of the
month. -/
structure MovedTo (d : Date) (index : Int) (e : Date) : Prop where
  /-- The month is the one asked for. -/
  month : e.monthIndex = index
  /-- The day is that of before, if the month has it. -/
  day : e.day = min d.day (daysInMonth e.year e.month)

theorem checkYear_of_mem {year : Int} (hlow : 1 ≤ year) (hhigh : year ≤ 9999) :
    checkYear year = .ok () := by
  rw [checkYear, if_neg (by omega), if_neg (by omega), if_neg (by omega), if_neg (by omega)]

theorem exists_checkYear_eq_error {year : Int} (h : ¬(1 ≤ year ∧ year ≤ 9999)) :
    ∃ e, checkYear year = .error e := by
  rw [checkYear]
  split_ifs
  · exact ⟨_, rfl⟩
  · exact ⟨_, rfl⟩
  · exact ⟨_, rfl⟩
  · exact ⟨_, rfl⟩
  · omega

/-- **Moving a date by months**, within the calendar. -/
theorem exists_shiftMonths (h : InCalendar (d.monthIndex + months)) :
    ∃ e, d.shiftMonths months = .ok e ∧ d.MovedTo (d.monthIndex + months) e := by
  obtain ⟨hlow, hhigh⟩ := h
  obtain ⟨-, -, -, -, hday, -⟩ := d.valid
  rw [shiftMonths, checkYear_of_mem hlow hhigh]
  generalize hindex : d.monthIndex + months = index at hlow hhigh
  have hdivision : 12 * index.fdiv 12 + index.fmod 12 = index := Int.mul_fdiv_add_fmod index 12
  have hnonneg : 0 ≤ index.fmod 12 := Int.fmod_nonneg_of_pos index (by decide)
  have hlt : index.fmod 12 < 12 := Int.fmod_lt_of_pos index (by decide)
  generalize index.fdiv 12 = year at *
  generalize index.fmod 12 = rest at *
  have hdays := twentyEight_le_daysInMonth year.toNat (rest.toNat + 1)
  have hvalid : ValidDate year.toNat (rest.toNat + 1)
      (min d.day (daysInMonth year.toNat (rest.toNat + 1))) :=
    ⟨by omega, by omega, by omega, by omega, by omega, Nat.min_le_right ..⟩
  refine ⟨⟨_, _, _, hvalid⟩, dif_pos hvalid, ?_, rfl⟩
  simp only [monthIndex]
  omega

/-- **Beyond the calendar** a date is not moved. -/
theorem exists_shiftMonths_eq_error (h : ¬InCalendar (d.monthIndex + months)) :
    ∃ error, d.shiftMonths months = .error error := by
  obtain ⟨error, herror⟩ := exists_checkYear_eq_error h
  exact ⟨error, by rw [shiftMonths, herror]; rfl⟩

namespace MovedTo

variable {index index' : Int} {d' e' u v : Date}

theorem day_le (h : d.MovedTo index e) : e.day ≤ d.day :=
  h.day ▸ Nat.min_le_left ..

/-- One of the first 28 days is kept. -/
theorem day_eq (h : d.MovedTo index e) (hday : d.day ≤ 28) : e.day = d.day := by
  rw [h.day, Nat.min_eq_left (Nat.le_trans hday (twentyEight_le_daysInMonth ..))]

/-- **The order of dates is kept** where both are moved by as many months. -/
theorem ordinal_le (hd : d.MovedTo (d.monthIndex + months) d')
    (he : e.MovedTo (e.monthIndex + months) e') (h : d.ordinal ≤ e.ordinal) :
    d'.ordinal ≤ e'.ordinal := by
  rw [ordinal_le_iff, hd.month, he.month]
  rcases ordinal_le_iff.mp h with hmonth | ⟨hmonth, hday⟩
  · left
    omega
  · right
    obtain ⟨hyear, hmonth'⟩ := monthIndex_inj.mp
      (show d'.monthIndex = e'.monthIndex by rw [hd.month, he.month, hmonth])
    refine ⟨by rw [hmonth], ?_⟩
    rw [hd.day, he.day, hyear, hmonth']
    exact Nat.le_min.mpr ⟨(Nat.min_le_left ..).trans hday, Nat.min_le_right ..⟩

end MovedTo

end Date

/-! ### Dates and moments -/

namespace Temporal

open Date

/-- What a temporal value has beside its date: the time of day and the offset of a moment. -/
def clock? : Temporal → Option (TimeOfDay × Option Offset)
  | .day _ => none
  | .moment m => some (m.time, m.offset)

@[simp] theorem date_withDate (t : Temporal) (d : Date) : (t.withDate d).date = d := by
  cases t <;> rfl

@[simp] theorem clock?_withDate (t : Temporal) (d : Date) : (t.withDate d).clock? = t.clock? := by
  cases t <;> rfl

variable {t : Temporal} {months : Int}

/-- **A temporal value is moved as its date is**, and keeps its time and offset. -/
theorem exists_shiftMonths (h : InCalendar (t.date.monthIndex + months)) :
    ∃ u, t.shiftMonths months = .ok u ∧ u.clock? = t.clock? ∧
      t.date.MovedTo (t.date.monthIndex + months) u.date := by
  obtain ⟨d, hd, hmoved⟩ := Date.exists_shiftMonths h
  refine ⟨t.withDate d, ?_, t.clock?_withDate d, (t.date_withDate d).symm ▸ hmoved⟩
  rw [Temporal.shiftMonths, hd]
  rfl

theorem exists_shiftMonths_eq_error (h : ¬InCalendar (t.date.monthIndex + months)) :
    ∃ error, t.shiftMonths months = .error error := by
  obtain ⟨error, herror⟩ := Date.exists_shiftMonths_eq_error h
  exact ⟨error, by rw [Temporal.shiftMonths, herror]; rfl⟩

end Temporal

end Calendar

/-! ### The functions that move dates -/

namespace OnDate

open Calendar

/-- **What a function that moves a date answers**, by the whole part of a number: the date that the
move comes to, or a failure. -/
theorem moved_eq {unit : String} {move : Temporal → Int → Except Calendar.Error Temporal}
    {date count : Value} {t : Temporal} {n : Int} (hdate : date.temporal? = some t)
    (hnumber : count.isNumber = true) (hcount : count.toWhole = .ok n) :
    moved unit move date count =
      match move t n with
      | .ok u => .ok (.success (.temporal u))
      | .error e => .error (.calendar e) := by
  rw [moved, Answer.withDate, hdate]
  dsimp only
  rw [Answer.withNumber, if_pos hnumber, hcount]
  rfl

/-- A move that fails is answered by a failure. -/
theorem exists_failure_of_moved {b : Builtin} {unit : String}
    {move : Temporal → Int → Except Calendar.Error Temporal} {date count : Value} {t : Temporal}
    {n : Int} (hb : b.apply [date, count] = moved unit move date count)
    (hdate : date.temporal? = some t) (hnumber : count.isNumber = true)
    (hcount : count.toWhole = .ok n) (hmove : ∃ error, move t n = .error error) :
    ∃ message, b.invoke [date, count] = .failure FailureCode.unexpectedError message := by
  obtain ⟨error, herror⟩ := hmove
  rw [moved_eq hdate hnumber hcount, herror] at hb
  exact ⟨_, by rw [Builtin.invoke, hb]⟩

end OnDate

namespace Calendar.Temporal

open Date

/-- **Moving by months is lawful.** Within the calendar, a date or moment lands in the month that
lies so many months on, keeps its time and offset, and stands on no later day of the month; moving
it twice lands in the same month as moving it once by both numbers, and on the same day if that is
one of the first 28. Dates that are moved alike keep their order. Beyond the calendar nothing is
moved, and the functions that move a date by months or years answer a failure. -/
theorem shiftMonths_lawful (t : Temporal) (a b : Int) :
    (InCalendar (t.date.monthIndex + a) →
      ∃ u, t.shiftMonths a = .ok u ∧ u.date.monthIndex = t.date.monthIndex + a ∧
        u.clock? = t.clock? ∧ u.date.day ≤ t.date.day ∧
        (InCalendar (t.date.monthIndex + (a + b)) →
          ∃ v w, u.shiftMonths b = .ok v ∧ t.shiftMonths (a + b) = .ok w ∧
            v.date.monthIndex = w.date.monthIndex ∧
            (t.date.day ≤ 28 → v.date.day = w.date.day))) ∧
    (∀ d e : Date, d.ordinal ≤ e.ordinal → InCalendar (d.monthIndex + a) →
      InCalendar (e.monthIndex + a) →
        ∃ d' e' : Date, (day d).shiftMonths a = .ok (day d') ∧
          (day e).shiftMonths a = .ok (day e') ∧ d'.ordinal ≤ e'.ordinal) ∧
    (¬InCalendar (t.date.monthIndex + a) → ∃ error, t.shiftMonths a = .error error) ∧
    ∀ date count : Value, date.temporal? = some t → count.isNumber = true →
      count.toWhole = .ok a →
        (¬InCalendar (t.date.monthIndex + a) → ∃ message,
          Builtin.addMonths.invoke [date, count] =
            .failure FailureCode.unexpectedError message) ∧
        (¬InCalendar (t.date.monthIndex + a * 12) → ∃ message,
          Builtin.addYears.invoke [date, count] =
            .failure FailureCode.unexpectedError message) := by
  refine ⟨fun ha => ?_, fun d e hle hd he => ?_, exists_shiftMonths_eq_error,
    fun date count hdate hnumber hcount => ⟨fun ha => ?_, fun ha => ?_⟩⟩
  · obtain ⟨u, hu, hclock, hmoved⟩ := exists_shiftMonths ha
    refine ⟨u, hu, hmoved.month, hclock, hmoved.day_le, fun hab => ?_⟩
    have hsum : u.date.monthIndex + b = t.date.monthIndex + (a + b) := by
      rw [hmoved.month]
      omega
    obtain ⟨v, hv, -, hmoved'⟩ := exists_shiftMonths (hsum.symm ▸ hab)
    obtain ⟨w, hw, -, hmoved''⟩ := exists_shiftMonths hab
    refine ⟨v, w, hv, hw, by rw [hmoved'.month, hmoved''.month, hsum], fun hday => ?_⟩
    rw [hmoved'.day_eq (hmoved.day_le.trans hday), hmoved.day_eq hday, hmoved''.day_eq hday]
  · obtain ⟨d', hd', hmoved⟩ := Date.exists_shiftMonths hd
    obtain ⟨e', he', hmoved'⟩ := Date.exists_shiftMonths he
    refine ⟨d', e', ?_, ?_, hmoved.ordinal_le hmoved' hle⟩
    · exact congrArg (Except.map day) hd'
    · exact congrArg (Except.map day) he'
  · exact OnDate.exists_failure_of_moved rfl hdate hnumber hcount (exists_shiftMonths_eq_error ha)
  · exact OnDate.exists_failure_of_moved rfl hdate hnumber hcount (exists_shiftMonths_eq_error ha)

/-- Half past nine on the last day of January in a leap year. -/
def januaryEnd : Temporal :=
  .moment ⟨⟨2024, 1, 31, by decide⟩, ⟨9, 30, 0, 0, by decide⟩, none⟩

theorem januaryEnd_shiftMonths_lawful :
    (InCalendar (januaryEnd.date.monthIndex + 1) ∧
      ∃ u, januaryEnd.shiftMonths 1 = .ok u ∧
        u.date.monthIndex = januaryEnd.date.monthIndex + 1 ∧
        u.clock? = januaryEnd.clock? ∧ u.date.day ≤ januaryEnd.date.day ∧
        (InCalendar (januaryEnd.date.monthIndex + (1 + 12)) →
          ∃ v w, u.shiftMonths 12 = .ok v ∧ januaryEnd.shiftMonths (1 + 12) = .ok w ∧
            v.date.monthIndex = w.date.monthIndex ∧
            (januaryEnd.date.day ≤ 28 → v.date.day = w.date.day))) ∧
      ¬InCalendar (januaryEnd.date.monthIndex + 8000 * 12) ∧
      ∃ message, Builtin.addYears.invoke [.temporal januaryEnd, .int 8000] =
        .failure FailureCode.unexpectedError message :=
  ⟨⟨by decide, (shiftMonths_lawful januaryEnd 1 12).1 (by decide)⟩, by decide,
    ((shiftMonths_lawful januaryEnd 8000 0).2.2.2 (.temporal januaryEnd) (.int 8000) rfl rfl
      rfl).2 (by decide)⟩

/-- The month after January is too short for the last day of January. -/
example : (januaryEnd.shiftMonths 1).toOption.map (·.date.isoText) = some "2024-02-29" := by cbv

end Calendar.Temporal

end RuleFlow
