import RuleFlow.Calendar.Date

/-!
# Moments

A moment is a date with a time of day and, possibly, an offset from universal time. A *temporal*
value is a date or a moment.

* `RuleFlow.Calendar.Moment.instant` is the moment in microseconds of universal time, or of its
  own clock where it has no offset.
* `RuleFlow.Calendar.Temporal.align` gives a date that meets a moment the time midnight and the
  moment's offset.
* `RuleFlow.Calendar.Temporal.same` and `RuleFlow.Calendar.Temporal.compare?` compare temporal
  values; a moment with an offset and one without have no order.
-/

namespace RuleFlow.Calendar

/-- **A time of day**, to the microsecond. -/
structure TimeOfDay where
  /-- The hour, below 24. -/
  hour : Nat
  /-- The minute, below 60. -/
  minute : Nat
  /-- The second, below 60. -/
  second : Nat
  /-- The microsecond, below a million. -/
  micro : Nat
  /-- The fields are within their ranges. -/
  valid : hour < 24 ∧ minute < 60 ∧ second < 60 ∧ micro < 1000000
deriving DecidableEq, Repr

namespace TimeOfDay

/-- Midnight. -/
def midnight : TimeOfDay :=
  ⟨0, 0, 0, 0, by decide⟩

/-- A time of day from its fields, or the first field out of range. -/
def of (hour minute second micro : Nat) : Except Error TimeOfDay :=
  if h : hour < 24 ∧ minute < 60 ∧ second < 60 ∧ micro < 1000000 then .ok ⟨_, _, _, _, h⟩
  else if 24 ≤ hour then .error .hourRange
  else if 60 ≤ minute then .error .minuteRange
  else .error .secondRange

/-- The microseconds since midnight. -/
def micros (t : TimeOfDay) : Nat :=
  ((t.hour * 60 + t.minute) * 60 + t.second) * 1000000 + t.micro

end TimeOfDay

/-- The microseconds of a day. -/
def microsPerDay : Int := 86400000000

/-- **An offset from universal time**, in microseconds, of less than a day either way. -/
structure Offset where
  /-- The offset in microseconds. -/
  micros : Int
  /-- An offset is less than a day. -/
  valid : -microsPerDay < micros ∧ micros < microsPerDay
deriving DecidableEq, Repr

/-- An offset, if it is less than a day. -/
def Offset.of (micros : Int) : Except Error Offset :=
  if h : -microsPerDay < micros ∧ micros < microsPerDay then .ok ⟨micros, h⟩
  else .error (.offsetRange micros)

/-- **A moment**: a date, a time of day, and an offset unless the moment is local. -/
structure Moment where
  /-- The date. -/
  date : Date
  /-- The time of day. -/
  time : TimeOfDay
  /-- The offset from universal time, if it is known. -/
  offset : Option Offset
deriving DecidableEq, Repr

namespace Moment

/-- The microseconds on the moment's own clock. -/
def clock (m : Moment) : Int :=
  m.date.ordinal * microsPerDay + m.time.micros

/-- **The instant** of a moment, in microseconds of universal time; a local moment is taken at its
own clock. -/
def instant (m : Moment) : Int :=
  m.clock - (m.offset.elim 0 Offset.micros)

/-- An offset as hours and minutes, then seconds and microseconds if there are any. -/
def offsetChars (o : Offset) : List Char :=
  let size := o.micros.natAbs
  let seconds := size / 1000000
  let micro := size % 1000000
  (if o.micros < 0 then '-' else '+') :: Number.paddedDigits 2 (seconds / 3600) ++
    ':' :: Number.paddedDigits 2 (seconds / 60 % 60) ++
      (if seconds % 60 = 0 ∧ micro = 0 then [] else ':' :: Number.paddedDigits 2 (seconds % 60)) ++
        if micro = 0 then [] else '.' :: Number.paddedDigits 6 micro

/-- The characters of the ISO form of a moment. -/
def isoChars (m : Moment) : List Char :=
  m.date.isoChars ++ 'T' :: Number.paddedDigits 2 m.time.hour ++
    ':' :: Number.paddedDigits 2 m.time.minute ++ ':' :: Number.paddedDigits 2 m.time.second ++
      (if m.time.micro = 0 then [] else '.' :: Number.paddedDigits 6 m.time.micro) ++
        m.offset.elim [] offsetChars

/-- **The ISO text of a moment**: microseconds and the offset are written if there are any. -/
def isoText (m : Moment) : String :=
  String.ofList m.isoChars

end Moment

/-- **Temporal values**: a date, or a moment of one. -/
inductive Temporal where
  /-- A date without a time. -/
  | day (date : Date)
  /-- A date with a time. -/
  | moment (moment : Moment)
deriving DecidableEq, Repr

namespace Temporal

/-- The date of a temporal value. -/
def date : Temporal → Date
  | .day d => d
  | .moment m => m.date

/-- The same time on another date. -/
def withDate (t : Temporal) (d : Date) : Temporal :=
  match t with
  | .day _ => .day d
  | .moment m => .moment { m with date := d }

/-- The ISO text. -/
def isoText : Temporal → String
  | .day d => d.isoText
  | .moment m => m.isoText

/-- A temporal value some days later, at the same time of day. -/
def addDays (t : Temporal) (days : Int) : Except Error Temporal :=
  (t.date.addDays days).map t.withDate

/-- A temporal value some months later, at the same time of day. -/
def shiftMonths (t : Temporal) (months : Int) : Except Error Temporal :=
  (t.date.shiftMonths months).map t.withDate

/-- The moment that a date becomes beside a moment: its midnight, at the same offset. -/
def atMidnight (d : Date) (beside : Moment) : Temporal :=
  .moment ⟨d, .midnight, beside.offset⟩

/-- **Alignment**: a date beside a moment becomes a moment; other pairs are left as they are. -/
def align : Temporal → Temporal → Temporal × Temporal
  | .moment m, .day d => (.moment m, atMidnight d m)
  | .day d, .moment m => (atMidnight d m, .moment m)
  | t, u => (t, u)

/-- **Equality of temporal values**: two dates, or two instants. A date is never equal to a moment,
nor a moment with an offset to one without. -/
def same : Temporal → Temporal → Bool
  | .day d, .day e => d == e
  | .moment m, .moment n =>
    m.offset.isSome == n.offset.isSome && m.instant == n.instant
  | _, _ => false

/-- **The difference** of two temporal values in microseconds, or nothing where they have none. -/
def microsBetween? : Temporal → Temporal → Option Int
  | .day d, .day e => some (((e.ordinal : Int) - d.ordinal) * microsPerDay)
  | .moment m, .moment n =>
    if m.offset.isSome = n.offset.isSome then some (n.instant - m.instant) else none
  | _, _ => none

/-- **The order of temporal values**, where they have one. -/
def compare? (t u : Temporal) : Option Ordering :=
  (microsBetween? u t).map fun d => compare d 0

end Temporal

end RuleFlow.Calendar
