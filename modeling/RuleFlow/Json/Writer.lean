import RuleFlow.Fault
import RuleFlow.Number.Whole

/-!
# Writing JSON

* `RuleFlow.Json.Layout` holds the choices of a written form.
* `RuleFlow.Json.write` writes a value. Decimals and temporal values, for which JSON has no form,
  are written as texts.
* `RuleFlow.Json.check` is the check of a document before it is written. It fails if a whole number
  in it has too many digits. Where other programs read it, its doubles have to be finite as well, as
  JSON has no form for the rest.
-/

namespace RuleFlow.Json

open Number

/-- **The choices of a written form.** -/
structure Layout where
  /-- Whether characters outside ASCII are written by their codes. -/
  asciiOnly : Bool
  /-- What stands between two items on one line. -/
  itemGap : String
  /-- What stands between a key and its value. -/
  keyGap : String
  /-- The width of one level of indentation, if every item has a line of its own. -/
  indent : Option Nat

/-- Everything on one line, without white space. -/
def compact : Layout :=
  { asciiOnly := false, itemGap := ",", keyGap := ":", indent := none }

/-- Everything on one line, with a space after every mark. -/
def spaced : Layout :=
  { asciiOnly := false, itemGap := ", ", keyGap := ": ", indent := none }

/-- A line for every item. -/
def indented : Layout :=
  { asciiOnly := false, itemGap := ",", keyGap := ": ", indent := some 2 }

/-! ### Texts -/

/-- Four hexadecimal digits after the mark of an escape by code. -/
def unitEscape (n : Nat) : List Char :=
  '\\' :: 'u' :: Text.hexDigits 4 n

/-- A character by its code; one of the upper planes takes two units. -/
def codeEscapes (c : Char) : List Char :=
  if c.toNat < 0x10000 then unitEscape c.toNat
  else
    let n := c.toNat - 0x10000
    unitEscape (0xD800 + n / 1024) ++ unitEscape (0xDC00 + n % 1024)

/-- **The form of one character** in a written text. -/
def escapeChar (asciiOnly : Bool) (c : Char) : List Char :=
  if c = '"' then ['\\', '"']
  else if c = '\\' then ['\\', '\\']
  else if c = '\n' then ['\\', 'n']
  else if c = '\r' then ['\\', 'r']
  else if c = '\t' then ['\\', 't']
  else if c = '\x08' then ['\\', 'b']
  else if c = '\x0c' then ['\\', 'f']
  else if c.toNat < 32 ∨ (asciiOnly ∧ 127 ≤ c.toNat) then codeEscapes c
  else [c]

/-- **A text** in quotes. -/
def writeText (asciiOnly : Bool) (s : String) : String :=
  String.ofList ('"' :: s.toList.flatMap (escapeChar asciiOnly) ++ ['"'])

/-- A double. -/
def writeDouble : Binary64 → String
  | .nan _ => "NaN"
  | .infinite negative => if negative then "-Infinity" else "Infinity"
  | x => x.toText

/-! ### Values -/

namespace Layout

variable (layout : Layout)

/-- The start of a line at a depth. -/
def newline (depth : Nat) : String :=
  match layout.indent with
  | some width => String.ofList ('\n' :: List.replicate (width * depth) ' ')
  | none => ""

/-- Written items between brackets. -/
def enclose (depth : Nat) (opening closing : String) (items : List String) : String :=
  if items.isEmpty then opening ++ closing
  else
    opening ++ layout.newline (depth + 1) ++
      (layout.itemGap ++ layout.newline (depth + 1)).intercalate items ++
      layout.newline depth ++ closing

end Layout

mutual

/-- A value at a depth. -/
def writeAt (layout : Layout) (depth : Nat) : Value → String
  | .null => "null"
  | .bool true => "true"
  | .bool false => "false"
  | .int n => toString n
  | .float x => writeDouble x
  | .decimal d => writeText layout.asciiOnly d.toText
  | .text s => writeText layout.asciiOnly s
  | .temporal t => writeText layout.asciiOnly t.display
  | .list items => layout.enclose depth "[" "]" (writeItems layout (depth + 1) items)
  | .record fields => layout.enclose depth "\x7b" "\x7d" (writeFields layout (depth + 1) fields)

/-- The items of a list, each written. -/
def writeItems (layout : Layout) (depth : Nat) : List Value → List String
  | [] => []
  | v :: rest => writeAt layout depth v :: writeItems layout depth rest

/-- The fields of a record, each written. -/
def writeFields (layout : Layout) (depth : Nat) : List (String × Value) → List String
  | [] => []
  | (key, v) :: rest =>
    (writeText layout.asciiOnly key ++ layout.keyGap ++ writeAt layout depth v) ::
      writeFields layout depth rest

end

/-- **Writing a value** as JSON. -/
def write (layout : Layout) (v : Value) : String :=
  writeAt layout 0 v

/-! ### Documents that can be written -/

mutual

/-- **The check of a document.** With `strict`, doubles have to be finite. -/
def check (strict : Bool) : Value → Except Fault Unit
  | .float (.finite _) => .ok ()
  | .float _ => if strict then .error .noDocumentForm else .ok ()
  | .int n => if tenPow mostDigits ≤ n.natAbs then .error .tooManyDigits else .ok ()
  | .list items => checkItems strict items
  | .record fields => checkFields strict fields
  | _ => .ok ()

/-- The check of items. -/
def checkItems (strict : Bool) : List Value → Except Fault Unit
  | [] => .ok ()
  | v :: rest =>
    match check strict v with
    | .ok () => checkItems strict rest
    | .error f => .error f

/-- The check of fields. -/
def checkFields (strict : Bool) : List (String × Value) → Except Fault Unit
  | [] => .ok ()
  | (_, v) :: rest =>
    match check strict v with
    | .ok () => checkFields strict rest
    | .error f => .error f

end

end RuleFlow.Json
