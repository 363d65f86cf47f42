import RuleFlow.Builtin.Answer
import RuleFlow.Value.Whole

/-!
# Functions on dates

A date, a moment, or a text that spells one.

* `RuleFlow.OnDate.addDays`, `addMonths`, `addYears` move a date.
* `RuleFlow.OnDate.diffDays` counts the days between two, a started day in full.
-/

namespace RuleFlow.OnDate

open Number Calendar Answer

/-! ### Moving a date -/

/-- Moving a date by a number of units, whose fraction is cut off. -/
def moved (unit : String) (move : Temporal → Int → Except Calendar.Error Temporal)
    (date count : Value) : Answer :=
  withDate "dateStr" date fun t =>
  withNumber unit count do
    match move t (← count.toWhole) with
    | .ok t => Answer.value (.temporal t)
    | .error e => .error (.calendar e)

/-- **Some months later**, on the last day of a month that is too short. -/
def addMonths : Value → Value → Answer :=
  moved "months" Temporal.shiftMonths

/-- **Some days later.** -/
def addDays : Value → Value → Answer :=
  moved "days" Temporal.addDays

/-- **Some years later**, on the last day of February in place of a leap day. -/
def addYears : Value → Value → Answer :=
  moved "years" fun t years => t.shiftMonths (years * 12)

/-! ### Texts and fields -/

/-- The function that tells something of a date. -/
def telling (tell : Date → Value) (date : Value) : Answer :=
  withDate "dateValue" date fun t => Answer.value (tell t.date)

/-- **The ISO text of the date.** -/
def format : Value → Answer :=
  telling fun d => .text d.isoText

/-- **The date as a label states it**: the date of production, with the Chinese signs for year,
month and day. -/
def formatLabel : Value → Answer :=
  telling fun d =>
    let year := String.ofList (paddedDigits 4 d.year)
    let month := String.ofList (paddedDigits 2 d.month)
    let day := String.ofList (paddedDigits 2 d.day)
    .text s!"生产日期：{year}年{month}月{day}日"

/-- **The year.** -/
def year : Value → Answer :=
  telling fun d => .decimal (.ofInt d.year)

/-- **The month.** -/
def month : Value → Answer :=
  telling fun d => .decimal (.ofInt d.month)

/-- **The day of the month.** -/
def day : Value → Answer :=
  telling fun d => .decimal (.ofInt d.day)

/-- **Whether a value is a date or spells one.** -/
def isValid (date : Value) : Answer :=
  Answer.bool date.temporal?.isSome

/-! ### Differences -/

/-- The seconds of a number of microseconds, as a double. -/
def seconds (micros : Nat) : Binary64 :=
  .ofRatio false micros 1000000

/-- The days of a number of seconds, the quotient a double again, rounded up. -/
def daysUp (seconds : Binary64) : Nat :=
  match seconds with
  | .finite x =>
    match Binary64.ofRatio false x.ratio.1 (x.ratio.2 * 86400) with
    | .finite y => (y.ratio.1 + y.ratio.2 - 1) / y.ratio.2
    | _ => 0
  | _ => 0

/-- **The number of days between two dates**, a started day counting in full. -/
def diffDays (first second : Value) : Answer :=
  withDate "date1" first fun t =>
  withDate "date2" second fun u =>
  let (t, u) := t.align u
  match t.microsBetween? u with
  | some micros => Answer.whole (daysUp (seconds micros.natAbs))
  | none => .error .mixedOffsets

end RuleFlow.OnDate
