import RuleFlow.Calendar.Iso
import RuleFlow.Number.Whole
import RuleFlow.Text.Quoted
import RuleFlow.Value.Basic

/-!
# Reading literals

A program runs from its text, so every value that is written out in it is read back before it is
used. What is read are the expressions that values are written as: names and numbers, texts in
quotes, calls of a function on a text, and lists and records of such expressions.

* `RuleFlow.Literal.ofCall?` is the value of a call. A NaN that is made by one is an object of its
  own.
* `RuleFlow.Literal.readValue` reads an expression at the start of a text, and
  `RuleFlow.Literal.read?` one that is the whole text.
-/

namespace RuleFlow.Literal

open Number Calendar

/-- What was read, and the text that follows. -/
abbrev Reading (α : Type) := Option (α × List Char)

/-! ### Texts, names and numbers -/

/-- A text in quotes. -/
def readText : List Char → Reading String
  | [] => none
  | mark :: cs =>
    if mark = '\'' ∨ mark = '"' then
      (Text.unquote mark .plain cs).map fun (chars, rest) => (String.ofList chars, rest)
    else none

/-- The characters of words, which are names and numbers. -/
def isWordChar (c : Char) : Bool :=
  c.isAlphanum || c == '_' || c == '.' || c == '+' || c == '-'

/-- The characters of the numbers among them. -/
def isNumberChar (c : Char) : Bool :=
  c.isDigit || c == '.' || c == '+' || c == '-' || c == 'e'

/-- A whole number, unless it has too many digits. -/
def whole? (word : List Char) : Option Int :=
  let (negative, digits) :=
    match word with
    | '-' :: digits => (true, digits)
    | digits => (false, digits)
  if digits ≠ [] ∧ digits.all Char.isDigit ∧ digits.length ≤ mostDigits then
    some (Decimal.signed negative (Decimal.digitsValue digits))
  else none

/-- A number. One with a point or an exponent is a double. -/
def number? (word : List Char) : Option Value :=
  if word.contains '.' || word.contains 'e' then
    if word.all isNumberChar then (Binary64.ofText? (String.ofList word)).map .float else none
  else (whole? word).map .int

/-- The names that are values. -/
def names : List (String × Value) :=
  [("None", .null), ("True", .bool true), ("False", .bool false)]

/-- The value of a word. -/
def ofWord? (word : List Char) : Option Value :=
  (number? word).or (names.lookup (String.ofList word))

/-- **The value of a call** of a function on a text. A NaN is a new object, known by the place of
the call. -/
def ofCall? (place : List Nat) (function argument : String) : Option Value :=
  match function with
  | "Decimal" => (Decimal.ofText? argument).map .decimal
  | "date.fromisoformat" => (readDate argument).toOption.map fun d => .temporal (.day d)
  | "datetime.fromisoformat" => (readMoment argument).toOption.map fun m => .temporal (.moment m)
  | "float" => (Binary64.ofText? argument).map fun x => .float (x.asNan (.written place))
  | _ => none

/-- A word, or a call if a bracket stands behind it. Within a place, calls are told apart by what
follows them. -/
def readWord (place : List Nat) (cs : List Char) : Reading Value :=
  let word := cs.takeWhile isWordChar
  match cs.dropWhile isWordChar with
  | '(' :: rest =>
    match readText rest with
    | some (argument, ')' :: rest) =>
      (ofCall? (rest.length :: place) (String.ofList word) argument).map fun v => (v, rest)
    | _ => none
  | rest => (ofWord? word).map fun v => (v, rest)

/-! ### Lists and records -/

/-- Items up to a closing bracket, a comma and a blank between two of them. The first argument
bounds the number of items. -/
def readSeparated {α : Type} (closing : Char) (item : List Char → Reading α) :
    Nat → List Char → Reading (List α)
  | 0, _ => none
  | fuel + 1, cs =>
    if cs.head? = some closing then some ([], cs.tail)
    else
      match item cs with
      | none => none
      | some (x, ',' :: ' ' :: rest) =>
        (readSeparated closing item fuel rest).map fun (xs, rest) => (x :: xs, rest)
      | some (x, rest) => if rest.head? = some closing then some ([x], rest.tail) else none

/-- A key in quotes and a value. -/
def readField (value : List Char → Reading Value) (cs : List Char) : Reading (String × Value) :=
  match readText cs with
  | some (key, ':' :: ' ' :: rest) => (value rest).map fun (v, rest) => ((key, v), rest)
  | _ => none

/-- **An expression** at the start of a text, its value being made at a place. The first argument
after it bounds the depth of lists and records. -/
def readValue (place : List Nat) : Nat → List Char → Reading Value
  | 0, _ => none
  | fuel + 1, cs =>
    match cs with
    | '[' :: rest =>
      (readSeparated ']' (readValue place fuel) rest.length rest).map fun (items, rest) =>
        (.list items, rest)
    | '\x7b' :: rest =>
      (readSeparated '\x7d' (readField (readValue place fuel)) rest.length rest).map
        fun (fields, rest) => (.record (Keyed.ofPairs fields), rest)
    | cs => ((readText cs).map fun (s, rest) => (.text s, rest)).or (readWord place cs)

/-- **Reading an expression**, its value being made at a place. -/
def read? (place : List Nat) (text : String) : Option Value :=
  match readValue place text.toList.length text.toList with
  | some (v, []) => some v
  | _ => none

end RuleFlow.Literal
