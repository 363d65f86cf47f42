import RuleFlow.Json.Writer
import RuleFlow.Service.Template

/-!
# Log lines

What happens is logged as records, one JSON object to a line.

* `RuleFlow.LogRecord` is what is logged; `RuleFlow.LogScope` is what it is logged in the course
  of.
* `RuleFlow.LogRecord.entry` is the object, its keys in a fixed order; what is unknown is left out.
* `RuleFlow.LogRecord.line` is the line.
-/

namespace RuleFlow

open Number Calendar

/-! ### Levels and times -/

/-- The names of the levels of log records. -/
def levelNames : List (Int × String) :=
  [(0, "NOTSET"), (10, "DEBUG"), (20, "INFO"), (30, "WARNING"), (40, "ERROR"), (50, "CRITICAL")]

/-- The name of a level. -/
def levelName (level : Int) : String :=
  (levelNames.lookup level).getD s!"Level {level}"

namespace Calendar

/-- The number of the first day of 1970. -/
def epochDay : Int := 719163

/-- The date of the calendar with a number, or why there is none. -/
def dayNumbered (n : Int) : Except Fault Date :=
  match Date.ofOrdinal? n with
  | some d => .ok d
  | none => .error (.calendar (.yearRange (if n < 1 then 0 else 10000)))

/-- **The moment** of universal time so many microseconds after the start of 1970. -/
def momentAfterEpoch (micros : Int) : Except Fault Moment := do
  let date ← dayNumbered (epochDay + micros.fdiv microsPerDay)
  let rest := (micros.fmod microsPerDay).toNat
  let time ← (TimeOfDay.of (rest / 3600000000) (rest / 60000000 % 60) (rest / 1000000 % 60)
    (rest % 1000000)).mapError .calendar
  let offset ← (Offset.of 0).mapError .calendar
  return { date, time, offset := some offset }

end Calendar

/-- The microseconds of a number of seconds. The fraction of a double is multiplied as a double and
rounded, a tie to even. -/
def Number.Binary64.Finite.toMicros (x : Binary64.Finite) : Except Fault Int :=
  let (num, den) := x.ratio
  match Binary64.ofRatio false (num % den * 1000000) den with
  | .finite product =>
    let (n, d) := product.ratio
    let micros := num / den * 1000000 + Rounding.halfEven.quotient false n d
    .ok (if x.negative then -(micros : Int) else micros)
  | _ => .error .infiniteDouble

/-- The moment so many seconds after the start of 1970. -/
def Value.momentAfterEpoch (seconds : Value) : Except Fault Moment :=
  match seconds with
  | .int n => Calendar.momentAfterEpoch (n * 1000000)
  | .bool b => Calendar.momentAfterEpoch (if b then 1000000 else 0)
  | .float (.finite x) => do Calendar.momentAfterEpoch (← x.toMicros)
  | .float (.infinite _) => .error .infiniteDouble
  | .float (.nan _) => .error .nanDouble
  | v => .error (.misused s!"'{v.className}' object cannot be interpreted as an integer")

/-! ### Records -/

/-- **What a record is logged in the course of**; what is empty is unknown. -/
structure LogScope where
  /-- The number of the request. -/
  requestId : String := ""
  /-- The rule. -/
  ruleId : String := ""
  /-- The region. -/
  region : String := ""

/-- **An error that a record tells of.** -/
structure LoggedError where
  /-- The kind, if there was an error. -/
  kind : Option String
  /-- The wording, if there was an error. -/
  message : Option String

/-- **A log record.** -/
structure LogRecord where
  /-- The template of the message. -/
  template : Value
  /-- The values for the template. -/
  args : List Value := []
  /-- The level. -/
  level : Int := 20
  /-- The name of the logger. -/
  logger : String
  /-- The file that it comes from. -/
  file : String
  /-- The line of the file. -/
  line : Value
  /-- The function, if it is known. -/
  function : Option String := none
  /-- The seconds since the start of 1970. -/
  created : Value := .int 0
  /-- The error that it tells of. -/
  error : Option LoggedError := none
  /-- What else is told. Under the name of an attribute of the record it takes its place. -/
  extra : Keyed Value := []

namespace LogRecord

/-- **The names of the attributes** that every record has. -/
def ownNames : List String :=
  ["name", "msg", "args", "levelname", "levelno", "pathname", "filename", "module", "lineno",
    "funcName", "created", "msecs", "relativeCreated", "thread", "threadName", "processName",
    "process", "taskName", "getMessage", "exc_info", "exc_text", "stack_info"]

/-- An attribute of a record: what stands in its place, or else what it is. -/
def told (r : LogRecord) (name : String) (own : Value) : Value :=
  (r.extra.find? name).getD own

/-- What is told beside the attributes. -/
def further (r : LogRecord) : Keyed Value :=
  r.extra.filter fun (key, _) => !ownNames.contains key

/-- **The message** of a record: its template, filled. -/
def message (r : LogRecord) : Except Fault String :=
  Template.fill (r.told "msg" r.template).display r.args

/-- The record of an error. -/
def errorEntry (e : LoggedError) : Value :=
  .record [("type", .ofText? e.kind), ("message", .ofText? e.message)]

/-- A field of an object, unless its text is empty. -/
def unlessEmpty (key s : String) : Keyed Value :=
  if s.isEmpty then [] else [(key, .text s)]

/-- **The object of a record.** -/
def entry (scope : LogScope) (r : LogRecord) : Except Fault Value := do
  let moment : Moment ← (r.told "created" r.created).momentAfterEpoch
  let message ← r.message
  return .record (
    [("timestamp", .text moment.isoText),
      ("level", r.told "levelname" (.text (levelName r.level))),
      ("logger", r.told "name" (.text r.logger)), ("message", .text message)] ++
    unlessEmpty "request_id" scope.requestId ++ unlessEmpty "rule_id" scope.ruleId ++
    unlessEmpty "region" scope.region ++
    (r.error.elim [] fun e => [("exception", errorEntry e)]) ++
    [("file", r.told "pathname" (.text r.file)), ("line", r.told "lineno" r.line),
      ("function", r.told "funcName" (.ofText? r.function))] ++
    if r.further.isEmpty then [] else [("extra", .record r.further)])

/-- **The line of a record.** -/
def toLine (scope : LogScope) (r : LogRecord) : Except Fault String :=
  (r.entry scope).map (Json.write Json.spaced)

end LogRecord

end RuleFlow
