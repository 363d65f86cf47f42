import RuleFlow.Text.Quoted

/-!
# Calendar errors

* `RuleFlow.Calendar.Error` lists what can go wrong with dates and times.
* `RuleFlow.Calendar.Error.message` words it.
* `RuleFlow.Calendar.Error.isOverflow` tells numbers too long for a calendar field from values
  outside a field's range.
-/

namespace RuleFlow.Calendar

/-- **What can go wrong** with dates and times. -/
inductive Error where
  /-- A text of no ISO form. -/
  | malformed (text : String)
  /-- A year outside 1 to 9999. -/
  | yearRange (year : Int)
  /-- A month outside 1 to 12. -/
  | monthRange
  /-- A day that its month does not have. -/
  | dayRange
  /-- An hour outside 0 to 23. -/
  | hourRange
  /-- A minute outside 0 to 59. -/
  | minuteRange
  /-- A second outside 0 to 59. -/
  | secondRange
  /-- An offset of a day or more, in microseconds. -/
  | offsetRange (micros : Int)
  /-- A year that no sixty-four-bit field holds. -/
  | yearTooLong
  /-- A year above every thirty-two-bit field. -/
  | yearAboveField
  /-- A year below every thirty-two-bit field. -/
  | yearBelowField
  /-- A number of days that no thirty-two-bit field holds. -/
  | daysTooLong
  /-- A number of days of more than nine digits. -/
  | daysRange (days : Int)
  /-- A sum outside the calendar. -/
  | outOfCalendar
deriving DecidableEq, Repr

/-- A duration as it is written in a message: whole days, rounded down, then the seconds and
microseconds that are left. -/
def durationText (micros : Int) : String :=
  let days := micros.fdiv 86400000000
  let rest := micros.fmod 86400000000
  let seconds := rest / 1000000
  let sub := rest % 1000000
  let parts :=
    (if days = 0 then [] else [s!"days={days}"]) ++
      (if seconds = 0 then [] else [s!"seconds={seconds}"]) ++
      (if sub = 0 then [] else [s!"microseconds={sub}"])
  "datetime.timedelta(" ++ (if parts.isEmpty then "0" else ", ".intercalate parts) ++ ")"

/-- **The wording of a calendar error.** -/
def Error.message : Error → String
  | .malformed text => s!"Invalid isoformat string: {Text.quote text}"
  | .yearRange year => s!"year {year} is out of range"
  | .monthRange => "month must be in 1..12"
  | .dayRange => "day is out of range for month"
  | .hourRange => "hour must be in 0..23"
  | .minuteRange => "minute must be in 0..59"
  | .secondRange => "second must be in 0..59"
  | .offsetRange micros =>
    "offset must be a timedelta strictly between -timedelta(hours=24) and " ++
      s!"timedelta(hours=24), not {durationText micros}."
  | .yearTooLong => "Python int too large to convert to C long"
  | .yearAboveField => "signed integer is greater than maximum"
  | .yearBelowField => "signed integer is less than minimum"
  | .daysTooLong => "Python int too large to convert to C int"
  | .daysRange days => s!"days={days}; must have magnitude <= 999999999"
  | .outOfCalendar => "date value out of range"

/-- Whether an error is a number too long for its field, not a value outside a range. -/
def Error.isOverflow : Error → Bool
  | .yearTooLong | .yearAboveField | .yearBelowField | .daysTooLong | .daysRange _
  | .outOfCalendar => true
  | _ => false

end RuleFlow.Calendar
