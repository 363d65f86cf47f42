import RuleFlow.Calendar.Moment
import RuleFlow.Number.Rounding
import RuleFlow.Text.Search

/-!
# Reading ISO texts

Dates are read in the forms `YYYY-MM-DD`, `YYYYMMDD`, `YYYY-Www-D`, `YYYYWwwD`, and the weeks
without a day. Moments add any one separator, hours, and possibly minutes, seconds, a fraction
and an offset. The reader works on the octets of the text, of which only the separator may be
outside ASCII.

* `RuleFlow.Calendar.readDate` and `RuleFlow.Calendar.readMoment` read the two forms.
* `RuleFlow.Calendar.Temporal.ofText` trims a text and chooses between them by its length.
-/

namespace RuleFlow.Calendar

namespace Iso

/-! ### Octets -/

/-- The octets of a text, each as a character below 256. -/
def octets (s : String) : List Char :=
  s.toUTF8.data.toList.map fun b => Char.ofNat b.toNat

/-- The character at the start of what is left; a text ends with the character zero. -/
def peek (cs : List Char) : Char :=
  cs.headD (Char.ofNat 0)

/-- Whether nothing but the end is left. -/
def ended (cs : List Char) : Bool :=
  peek cs == Char.ofNat 0

/-- The value of exactly `count` digits, with what follows them. -/
def digits? (count : Nat) (cs : List Char) : Option (Nat × List Char) :=
  let ds := cs.take count
  if ds.length = count ∧ ds.all Char.isDigit then
    some (ds.foldl (fun n c => n * 10 + (c.toNat - 48)) 0, cs.drop count)
  else none

/-! ### Dates -/

/-- The Monday of the first week of a year, which is the week of its first Thursday. -/
def weekOneMonday (year : Nat) : Int :=
  let first := Date.ordinalOf year 1 1
  let weekday := Date.weekdayOf first
  (first : Int) - weekday + (if 3 < weekday then 7 else 0)

/-- Whether a year has a week of a number. A fifty-third week needs a year that starts on a
Thursday, or a leap year that starts on a Wednesday. -/
def hasWeek (year week : Nat) : Bool :=
  let weekday := Date.weekdayOf (Date.ordinalOf year 1 1)
  (decide (0 < week) && decide (week < 53)) ||
    (week == 53 && (weekday == 3 || (weekday == 2 && isLeap year)))

/-- The fields of the day of a week. Days past the end of the calendar get the year after it, and
days before its start get no month. -/
def weekDate? (year week day : Nat) : Option (Nat × Nat × Nat) :=
  if hasWeek year week ∧ 1 ≤ day ∧ day ≤ 7 then
    if year = 0 then some (1, 0, 0)
    else some (Date.fieldsOfOrdinal (weekOneMonday year + (week - 1) * 7 + day - 1).toNat)
  else none

/-- The fields of the date at the start of a text of `length` octets. What follows the fields is
not looked at. -/
def dateFields? (length : Nat) (cs : List Char) : Option (Nat × Nat × Nat) := do
  let (year, rest) ← digits? 4 cs
  let hyphen := peek rest == '-'
  let rest := if hyphen then rest.drop 1 else rest
  if peek rest == 'W' then
    let (week, rest) ← digits? 2 (rest.drop 1)
    if (if hyphen then 8 else 7) < length then
      if hyphen && peek rest != '-' then none
      else
        let (day, _) ← digits? 1 (if hyphen then rest.drop 1 else rest)
        weekDate? year week day
    else weekDate? year week 1
  else
    let (month, rest) ← digits? 2 rest
    if hyphen && peek rest != '-' then none
    else
      let (day, _) ← digits? 2 (if hyphen then rest.drop 1 else rest)
      some (year, month, day)

/-! ### Times -/

/-- What has been read of a time: hour, minute, second, microsecond. -/
abbrev Clock := Nat × Nat × Nat × Nat

/-- The digits of a fraction, of which six count. -/
def fraction? (cs : List Char) (width : Nat) : Option (Nat × List Char) :=
  let count := min width 6
  if count = 0 then none
  else (digits? count cs).map fun (n, rest) =>
    (n * Number.tenPow (6 - count), rest.dropWhile Char.isDigit)

/-- The hour, minute and second still to be read: `index` of them have been read, `left` octets
belong to the time, and the text may go on after them. The answer tells whether the time ended
where it should. -/
def clockFields? (colon : Bool) : Nat → List Nat → Nat → List Char → Option (Clock × Bool)
  | 0, _, _, _ => none
  | fuel + 1, fields, left, cs => do
    let (n, rest) ← digits? 2 cs
    let fields := fields ++ [n]
    let next := peek rest
    let colon := if fields.length = 1 then next == ':' else colon
    let clock (micro : Nat) : Clock :=
      (fields.getD 0 0, fields.getD 1 0, fields.getD 2 0, micro)
    let withFraction (cs : List Char) (width : Nat) : Option (Clock × Bool) := do
      let (micro, rest) ← fraction? cs width
      some (clock micro, ended rest)
    if left ≤ 3 then some (clock 0, next == Char.ofNat 0)
    else if colon && next == ':' then
      if fields.length = 3 then withFraction (rest.drop 1) (left - 3)
      else clockFields? colon fuel fields (left - 3) (rest.drop 1)
    else if next == '.' || next == ',' then withFraction (rest.drop 1) (left - 3)
    else if !colon then
      if fields.length = 3 then withFraction rest (left - 2)
      else clockFields? colon fuel fields (left - 2) rest
    else none

/-- A time of `left` octets at the start of a text, and whether it ended where it should. -/
def clock? (left : Nat) (cs : List Char) : Option (Clock × Bool) :=
  clockFields? true 3 [] left cs

/-- The number of octets of a time before the mark of its offset. -/
def clockLength (cs : List Char) : Nat :=
  (cs.takeWhile fun c => !(c == '+' || c == '-' || c == 'Z')).length

/-- A time with its offset in microseconds, if it has one. An offset of less than a second counts
as none from universal time. -/
def time? (cs : List Char) : Option (Clock × Option Int) := do
  let length := clockLength cs
  let (clock, atEnd) ← clock? length cs
  match cs.drop length with
  | [] => if atEnd then some (clock, none) else none
  | 'Z' :: rest => if ended rest then some (clock, some 0) else none
  | mark :: rest =>
    let ((h, m, s, micro), atEnd) ← clock? rest.length rest
    if !atEnd then none
    else
      let seconds := (h * 60 + m) * 60 + s
      let size : Int := if seconds = 0 then 0 else seconds * 1000000 + micro
      some (clock, some (if mark == '-' then -size else size))

/-! ### The separator of a moment -/

/-- Where the date of a moment ends. After a week without a hyphen the length of the run of digits
decides whether it holds the day of the week: the digits of the time come in pairs. -/
def separatorAt (cs : List Char) : Nat :=
  let length := cs.length
  let char (n : Nat) : Char := peek (cs.drop n)
  if length = 7 then 7
  else if char 4 == '-' then
    if char 5 == 'W' then
      if 8 < length ∧ char 8 == '-' then
        if 10 < length ∧ (char 10).isDigit then 8 else 10
      else 8
    else 10
  else if char 4 == 'W' then
    let stop := 7 + ((cs.drop 7).takeWhile Char.isDigit).length
    if stop < 9 then stop else if stop % 2 = 0 then 7 else 8
  else 8

/-- The number of octets of the character that starts with an octet. -/
def octetCount (c : Char) : Nat :=
  if c.toNat < 128 then 1
  else if c.toNat / 16 = 14 then 3
  else if c.toNat / 16 = 15 then 4
  else 2

end Iso

/-- **Reading a date.** -/
def readDate (s : String) : Except Error Date :=
  let cs := Iso.octets s
  let fields :=
    if cs.length = 7 ∨ cs.length = 8 ∨ cs.length = 10 then Iso.dateFields? cs.length cs else none
  match fields with
  | none => .error (.malformed s)
  | some (year, month, day) => Date.of year month day

/-- **Reading a moment.** An offset of a day or more is refused before a date out of range. -/
def readMoment (s : String) : Except Error Moment :=
  let cs := Iso.octets s
  let stop := Iso.separatorAt cs
  let parts := do
    let date ← Iso.dateFields? stop cs
    let rest := cs.drop stop
    if rest.isEmpty then some (date, (0, 0, 0, 0), none)
    else
      let time ← Iso.time? (rest.drop (Iso.octetCount (Iso.peek rest)))
      some (date, time)
  match parts with
  | none => .error (.malformed s)
  | some ((year, month, day), (hour, minute, second, micro), offset) => do
    let offset ← match offset with
      | none => pure none
      | some micros => (Offset.of micros).map some
    let date ← Date.of year month day
    let time ← TimeOfDay.of hour minute second micro
    return ⟨date, time, offset⟩

/-- **Reading a temporal value.** A text of more than ten characters, white space at its ends
aside, is a moment; any other is a date. -/
def Temporal.ofText (s : String) : Except Error Temporal :=
  let text := Text.trim s
  if 10 < text.length then (readMoment text).map .moment else (readDate text).map .day

end RuleFlow.Calendar
