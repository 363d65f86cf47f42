import RuleFlow.Calendar.Error
import RuleFlow.Number.Rounding

/-!
# Dates

Dates of the proleptic Gregorian calendar, from the year 1 to the year 9999.

* `RuleFlow.Calendar.Date` is a date, `RuleFlow.Calendar.Date.of` checks one field after another.
* `RuleFlow.Calendar.Date.ordinal` numbers the days, the first of January of the year 1 being
  day 1, and `RuleFlow.Calendar.Date.ofOrdinal?` goes back.
* `RuleFlow.Calendar.Date.addDays` and `RuleFlow.Calendar.Date.shiftMonths` move a date; a day
  that the target month does not have becomes its last day.
-/

namespace RuleFlow.Calendar

/-! ### Months -/

/-- A leap year is divisible by 4, and by 400 if it is divisible by 100. -/
def isLeap (year : Nat) : Bool :=
  year % 4 == 0 && (year % 100 != 0 || year % 400 == 0)

/-- The number of days of a month. -/
def daysInMonth (year month : Nat) : Nat :=
  match month with
  | 2 => if isLeap year then 29 else 28
  | 4 | 6 | 9 | 11 => 30
  | _ => 31

/-- The fields of a date are within their ranges. -/
def ValidDate (year month day : Nat) : Prop :=
  1 ≤ year ∧ year ≤ 9999 ∧ 1 ≤ month ∧ month ≤ 12 ∧ 1 ≤ day ∧ day ≤ daysInMonth year month

instance (year month day : Nat) : Decidable (ValidDate year month day) :=
  inferInstanceAs (Decidable (_ ∧ _ ∧ _ ∧ _ ∧ _ ∧ _))

/-- **A date.** -/
structure Date where
  /-- The year, from 1 to 9999. -/
  year : Nat
  /-- The month, from 1 to 12. -/
  month : Nat
  /-- The day of the month. -/
  day : Nat
  /-- The fields are within their ranges. -/
  valid : ValidDate year month day
deriving DecidableEq, Repr

namespace Date

/-- **A date from its fields**, or the first field out of range. -/
def of (year month day : Int) : Except Error Date :=
  if h : ValidDate year.toNat month.toNat day.toNat then .ok ⟨_, _, _, h⟩
  else if year < 1 ∨ 9999 < year then .error (.yearRange year)
  else if month < 1 ∨ 12 < month then .error .monthRange
  else .error .dayRange

/-! ### Day numbers -/

/-- The number of days before a year. -/
def daysBeforeYear (year : Nat) : Nat :=
  let past := year - 1
  past * 365 + past / 4 - past / 100 + past / 400

/-- The number of days of a year before a month. -/
def daysBeforeMonth (year : Nat) : Nat → Nat
  | 0 => 0
  | month + 1 => if month = 0 then 0 else daysBeforeMonth year month + daysInMonth year month

/-- The number of the day with the given fields. -/
def ordinalOf (year month day : Nat) : Nat :=
  daysBeforeYear year + daysBeforeMonth year month + day

/-- **The number of a day**, counted from the first of January of the year 1, which is day 1. -/
def ordinal (d : Date) : Nat :=
  ordinalOf d.year d.month d.day

/-- The month and day of the day of a year with the given number, counted from 0. The first
argument bounds the number of months left, the second is the current month. -/
def monthAndDay (year : Nat) : Nat → Nat → Nat → Nat × Nat
  | 0, month, rest => (month, rest + 1)
  | fuel + 1, month, rest =>
    if rest < daysInMonth year month then (month, rest + 1)
    else monthAndDay year fuel (month + 1) (rest - daysInMonth year month)

/-- The fields of the day with a number: whole cycles of 400, 100, 4 and 1 years are taken off in
turn, the last of four not being longer than the others. -/
def fieldsOfOrdinal (n : Nat) : Nat × Nat × Nat :=
  let r := n - 1
  let (n400, r) := (r / 146097, r % 146097)
  let n100 := min (r / 36524) 3
  let r := r - n100 * 36524
  let (n4, r) := (r / 1461, r % 1461)
  let n1 := min (r / 365) 3
  let r := r - n1 * 365
  let year := 400 * n400 + 100 * n100 + 4 * n4 + n1 + 1
  let (month, day) := monthAndDay year 12 1 r
  (year, month, day)

/-- **The day with a number**, if the calendar reaches it. -/
def ofOrdinal? (n : Int) : Option Date :=
  if 1 ≤ n then
    let (year, month, day) := fieldsOfOrdinal n.toNat
    if h : ValidDate year month day then some ⟨year, month, day, h⟩ else none
  else none

/-- The day of the week, Monday being 0. -/
def weekdayOf (ordinal : Nat) : Nat :=
  (ordinal + 6) % 7

/-! ### Moving a date -/

/-- **A date some days later.** A number of days has at most nine digits. -/
def addDays (d : Date) (days : Int) : Except Error Date :=
  if days < -2147483648 ∨ 2147483647 < days then .error .daysTooLong
  else if days < -999999999 ∨ 999999999 < days then .error (.daysRange days)
  else
    match ofOrdinal? (d.ordinal + days) with
    | some later => .ok later
    | none => .error .outOfCalendar

/-- A year that has to fit a calendar field, or how it fails to. -/
def checkYear (year : Int) : Except Error Unit :=
  if year < -9223372036854775808 ∨ 9223372036854775807 < year then .error .yearTooLong
  else if 2147483647 < year then .error .yearAboveField
  else if year < -2147483648 then .error .yearBelowField
  else if year < 1 ∨ 9999 < year then .error (.yearRange year)
  else .ok ()

/-- The number of the month, counted from the start of the year 0. -/
def monthIndex (d : Date) : Int :=
  d.year * 12 + (d.month - 1)

/-- **A date some months later.** A day that the target month does not have becomes the last day
of that month. -/
def shiftMonths (d : Date) (months : Int) : Except Error Date :=
  let index := d.monthIndex + months
  let year := index.fdiv 12
  let month := (index.fmod 12).toNat + 1
  (checkYear year).bind fun _ =>
    of year month (min d.day (daysInMonth year.toNat month) : Nat)

/-! ### Text -/

/-- A date as year, month and day between hyphens. -/
def isoChars (d : Date) : List Char :=
  Number.paddedDigits 4 d.year ++ '-' :: Number.paddedDigits 2 d.month ++
    '-' :: Number.paddedDigits 2 d.day

/-- **The ISO text of a date.** -/
def isoText (d : Date) : String :=
  String.ofList d.isoChars

end Date

end RuleFlow.Calendar
