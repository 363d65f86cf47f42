import RuleFlow.Text.Quoted
import RuleFlow.Value.Basic

/-!
# The text of values

* `RuleFlow.Value.inspect` writes a value as it stands inside messages: texts are quoted, and
  decimals and temporal values carry the name of their kind.
* `RuleFlow.Value.display` writes a value on its own.
* `RuleFlow.Value.stringify` is the conversion of values to text that rules use.

Each value has a text. That some whole numbers are too long to be written is known to those who
write documents and programs (`RuleFlow.Json.check`), not here.
-/

namespace RuleFlow

open Number Calendar

/-! ### Temporal values inside messages -/

namespace Calendar

/-- An offset inside a message. -/
def Offset.inspect (o : Offset) : String :=
  if o.micros = 0 then "datetime.timezone.utc"
  else s!"datetime.timezone({durationText o.micros})"

/-- A temporal value inside a message; seconds and microseconds are left out where they are the
last fields and zero. -/
def Temporal.inspect : Temporal → String
  | .day d => s!"datetime.date({d.year}, {d.month}, {d.day})"
  | .moment m =>
    let fields := [m.date.year, m.date.month, m.date.day, m.time.hour, m.time.minute] ++
      (if m.time.micro ≠ 0 then [m.time.second, m.time.micro]
       else if m.time.second ≠ 0 then [m.time.second] else [])
    let zone := m.offset.elim "" fun o => s!", tzinfo={o.inspect}"
    "datetime.datetime(" ++ ", ".intercalate (fields.map toString) ++ zone ++ ")"

/-- A temporal value on its own: a space stands between date and time. -/
def Temporal.display : Temporal → String
  | .day d => d.isoText
  | .moment m =>
    String.ofList (m.date.isoChars ++ ' ' :: m.isoChars.drop (m.date.isoChars.length + 1))

end Calendar

namespace Value

/-! ### Inside messages -/

mutual

/-- **A value inside a message.** -/
def inspect : Value → String
  | .null => "None"
  | .bool true => "True"
  | .bool false => "False"
  | .int n => toString n
  | .float x => x.toText
  | .decimal d => s!"Decimal('{d.toText}')"
  | .text s => Text.quote s
  | .temporal t => t.inspect
  | .list items => "[" ++ inspectItems items ++ "]"
  | .record fields => "\x7b" ++ inspectFields fields ++ "\x7d"

/-- The items of a list, separated by commas. -/
def inspectItems : List Value → String
  | [] => ""
  | v :: rest => inspect v ++ inspectMoreItems rest

/-- The items of a list after its first. -/
def inspectMoreItems : List Value → String
  | [] => ""
  | v :: rest => ", " ++ inspect v ++ inspectMoreItems rest

/-- The fields of a record, separated by commas. -/
def inspectFields : List (String × Value) → String
  | [] => ""
  | (k, v) :: rest => Text.quote k ++ ": " ++ inspect v ++ inspectMoreFields rest

/-- The fields of a record after its first. -/
def inspectMoreFields : List (String × Value) → String
  | [] => ""
  | (k, v) :: rest => ", " ++ Text.quote k ++ ": " ++ inspect v ++ inspectMoreFields rest

end

/-! ### On their own -/

/-- **A value on its own**: a text is itself. -/
def display : Value → String
  | .text s => s
  | .decimal d => d.toText
  | .temporal t => t.display
  | v => v.inspect

mutual

/-- **The text of a value in a rule.** Nothing is the empty text, truth values are in lower case,
and the texts of a list are joined by commas. -/
def stringify : Value → String
  | .null => ""
  | .text s => s
  | .bool true => "true"
  | .bool false => "false"
  | .list items => stringifyItems items
  | .temporal t => t.isoText
  | .int n => toString n
  | .float x => x.toText
  | .decimal d => d.toText
  | .record fields => (Value.record fields).inspect

/-- The texts of the items of a list, joined by commas. -/
def stringifyItems : List Value → String
  | [] => ""
  | v :: rest => stringify v ++ stringifyMoreItems rest

/-- The texts of the items of a list after its first. -/
def stringifyMoreItems : List Value → String
  | [] => ""
  | v :: rest => "," ++ stringify v ++ stringifyMoreItems rest

end

end Value

end RuleFlow
