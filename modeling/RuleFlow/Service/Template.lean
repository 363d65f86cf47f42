import RuleFlow.Number.Binary64.Fixed
import RuleFlow.Value.Whole

/-!
# Message templates

A template is a text with places in it. A place is marked by a percent sign and says how the value
put there is written: `%s` as it is shown, `%r` as it is inspected, `%d` as a whole number, `%x` in
hexadecimal digits, `%.2f` with two digits after the point, and so on. Two percent signs stand for
one. Values are taken in order, or by name from a record.

* `RuleFlow.Template.Place` is a place as it is written.
* `RuleFlow.Template.write` writes a value into a place.
* `RuleFlow.Template.fill` fills a whole template.
-/

namespace RuleFlow.Template

open Number

/-! ### Places -/

/-- The flags of a place. -/
structure Flags where
  /-- Numbers have their alternate form. -/
  alternate : Bool := false
  /-- Numbers are filled up with zeros. -/
  zeros : Bool := false
  /-- What is short stands at the left. -/
  left : Bool := false
  /-- Positive numbers have a blank in front. -/
  blank : Bool := false
  /-- Positive numbers have a plus sign. -/
  plus : Bool := false

/-- The flags with the one of a character, if it is one. -/
def Flags.with? (f : Flags) (c : Char) : Option Flags :=
  match c with
  | '#' => some { f with alternate := true }
  | '0' => some { f with zeros := true }
  | '-' => some { f with left := true }
  | ' ' => some { f with blank := true }
  | '+' => some { f with plus := true }
  | _ => none

/-- **A place**: how a value is written there. -/
structure Place where
  /-- The flags. -/
  flags : Flags := {}
  /-- The least number of characters. -/
  width : Nat := 0
  /-- The number of digits, or of characters that are kept. -/
  precision : Option Nat := none
  /-- The letter that says how. -/
  letter : Char := 's'

/-! ### Writing one value -/

/-- Characters filled up with blanks to the width of a place. -/
def pad (p : Place) (chars : List Char) : List Char :=
  let fill := List.replicate (p.width - chars.length) ' '
  if p.flags.left then chars ++ fill else fill ++ chars

/-- A number filled up to the width of a place: with zeros after its sign and mark, or with
blanks. -/
def padNumber (p : Place) (front digits : List Char) : List Char :=
  if p.flags.zeros && !p.flags.left then
    front ++ List.replicate (p.width - front.length - digits.length) '0' ++ digits
  else pad p (front ++ digits)

/-- The sign in front of a number. -/
def signChars (p : Place) (negative : Bool) : List Char :=
  if negative then ['-'] else if p.flags.plus then ['+'] else if p.flags.blank then [' '] else []

/-- The whole number of a value that is a number; fractions are cut off. -/
def wholeOf (letter : Char) (v : Value) : Except Fault Int :=
  if v.isNumber then v.toWhole
  else
    match v with
    | .bool b => .ok (if b then 1 else 0)
    | v => .error (.misused s!"%{letter} format: a real number is required, not {v.className}")

/-- The whole number of a value that is one. -/
def integerOf (letter : Char) (v : Value) : Except Fault Int :=
  match v with
  | .int n => .ok n
  | .bool b => .ok (if b then 1 else 0)
  | v => .error (.misused s!"%{letter} format: an integer is required, not {v.className}")

/-- The double of a value that is a number. -/
def doubleOf (v : Value) : Except Fault Binary64 :=
  match v with
  | .int n => Value.wholeDouble n
  | .bool b => Value.wholeDouble (if b then 1 else 0)
  | .float x => .ok x
  | .decimal (.nan _ true _) => .error .signalingNan
  | .decimal d => .ok (.ofDecimal d)
  | v => .error (.misused s!"must be real number, not {v.className}")

/-- A whole number in digits of a base, after a mark for the base. -/
def writeWhole (p : Place) (base : Nat) (mark : String) (n : Int) : List Char :=
  let digits := Nat.toDigits base n.natAbs
  let digits := List.replicate (p.precision.getD 0 - digits.length) '0' ++ digits
  let front := signChars p (decide (n < 0)) ++ if p.flags.alternate then mark.toList else []
  padNumber p front digits

/-- A double in a form. -/
def writeDouble (p : Place) (form : Binary64.DigitForm) (x : Binary64) : List Char :=
  match x with
  | .finite x =>
    padNumber p (signChars p x.negative) (x.chars form p.flags.alternate (p.precision.getD 6))
  | .infinite negative => padNumber p (signChars p negative) "inf".toList
  | .nan _ => padNumber p (signChars p false) "nan".toList

/-- Characters in capitals. -/
def capitals (chars : List Char) : List Char :=
  chars.map Char.toUpper

/-- A text, of which only so many characters are kept. -/
def writeText (p : Place) (s : String) : List Char :=
  pad p (match p.precision with
    | some n => s.toList.take n
    | none => s.toList)

/-- A text with all characters outside ASCII by their codes. -/
def plainText (s : String) : String :=
  String.ofList (s.toList.flatMap fun c => if c.toNat < 128 then [c] else Text.codeEscape c)

/-- A single character, or the character of a code. -/
def writeChar (p : Place) (v : Value) : Except Fault (List Char) :=
  match v with
  | .text s =>
    match s.toList with
    | [c] => .ok (pad p [c])
    | _ => .error (.misused "%c requires int or char")
  | .int n =>
    if 0 ≤ n ∧ n < 0x110000 then .ok (pad p [Char.ofNat n.toNat]) else .error .charRange
  | .bool b => .ok (pad p [Char.ofNat (if b then 1 else 0)])
  | _ => .error (.misused "%c requires int or char")

/-- **Writing a value** into a place; nothing if the letter of the place is none. -/
def write (p : Place) (v : Value) : Option (Except Fault (List Char)) :=
  match p.letter with
  | 's' => some (.ok (writeText p v.display))
  | 'r' => some (.ok (writeText p v.inspect))
  | 'a' => some (.ok (writeText p (plainText v.inspect)))
  | 'd' | 'i' | 'u' => some ((wholeOf p.letter v).map (writeWhole p 10 ""))
  | 'o' => some ((integerOf 'o' v).map (writeWhole p 8 "0o"))
  | 'x' => some ((integerOf 'x' v).map (writeWhole p 16 "0x"))
  | 'X' => some ((integerOf 'X' v).map fun n => capitals (writeWhole p 16 "0x" n))
  | 'f' => some ((doubleOf v).map (writeDouble p .fixed))
  | 'F' => some ((doubleOf v).map fun x => capitals (writeDouble p .fixed x))
  | 'e' => some ((doubleOf v).map (writeDouble p .scientific))
  | 'E' => some ((doubleOf v).map fun x => capitals (writeDouble p .scientific x))
  | 'g' => some ((doubleOf v).map (writeDouble p .general))
  | 'G' => some ((doubleOf v).map fun x => capitals (writeDouble p .general x))
  | 'c' => some (writeChar p v)
  | _ => none

/-! ### Values for places -/

/-- **What places are filled from**: the values left, and the record that names are looked up
in. -/
structure Supply where
  /-- The values that are left. -/
  left : List Value
  /-- The record, if there is one. -/
  named : Option (Keyed Value) := none
  /-- Whether the record as a whole may stand for a value. -/
  whole : Bool := false

namespace Supply

/-- What arguments supply. A single record that is not empty is one of names. -/
def ofArguments (args : List Value) : Supply :=
  match args with
  | [.record fields] =>
    if fields.isEmpty then { left := args }
    else { left := args, named := some fields, whole := true }
  | args => { left := args }

/-- The next value, and what is left. -/
def next (s : Supply) : Except Fault (Value × Supply) :=
  match s.left with
  | v :: rest => .ok (v, { s with left := rest })
  | [] => .error (.misused "not enough arguments for format string")

/-- The value of a name. From then on only names are left. -/
def called (s : Supply) (name : String) : Except Fault (Value × Supply) :=
  match s.named with
  | none => .error (.misused "format requires a mapping")
  | some fields =>
    match Keyed.find? fields name with
    | some v => .ok (v, { s with left := [] })
    | none => .error (.noKey name)

/-- The check that no value is left over. A record may be. -/
def close (s : Supply) : Except Fault Unit :=
  if s.left.isEmpty || s.whole then .ok ()
  else .error (.misused "not all arguments converted during string formatting")

end Supply

/-! ### Reading places -/

/-- The name in brackets before the closing bracket that matches, and what follows. The first
argument counts the brackets that are open inside. -/
def nameChars : Nat → List Char → Option (List Char × List Char)
  | _, [] => none
  | 0, ')' :: rest => some ([], rest)
  | depth + 1, ')' :: rest => (nameChars depth rest).map fun (name, rest) => (')' :: name, rest)
  | depth, '(' :: rest => (nameChars (depth + 1) rest).map fun (name, rest) => ('(' :: name, rest)
  | depth, c :: rest => (nameChars depth rest).map fun (name, rest) => (c :: name, rest)

/-- Flags, and what follows them. -/
def readFlags : Flags → List Char → Flags × List Char
  | f, [] => (f, [])
  | f, c :: rest =>
    match f.with? c with
    | some f => readFlags f rest
    | none => (f, c :: rest)

/-- The number at the start of characters, and what follows it. -/
def readCount (cs : List Char) : Nat × List Char :=
  ((cs.takeWhile Char.isDigit).foldl (fun n c => n * 10 + (c.toNat - 48)) 0,
    cs.dropWhile Char.isDigit)

/-- The number from which on a width or precision is refused. -/
def countBound : Nat := 2147483648

/-- A width or precision that is not refused. -/
def bounded (refusal : Fault) (n : Nat) : Except Fault Nat :=
  if n < countBound then .ok n else .error refusal

/-- A width: a number, or a star, which takes the next value. A negative width puts what is short
at the left. -/
def readWidth (f : Flags) (supply : Supply) (cs : List Char) :
    Except Fault (Flags × Nat × Supply × List Char) :=
  match cs with
  | '*' :: rest => do
    let (v, supply) ← supply.next
    match v with
    | .int n => do
      let width ← bounded .countTooLong n.natAbs
      return (if n < 0 then { f with left := true } else f, width, supply, rest)
    | .bool b => return (f, if b then 1 else 0, supply, rest)
    | _ => .error (.misused "* wants int")
  | cs => do
    let (n, rest) := readCount cs
    return (f, ← bounded .widthTooBig n, supply, rest)

/-- A precision, if there is a point. A star takes the next value. -/
def readPrecision (supply : Supply) (cs : List Char) :
    Except Fault (Option Nat × Supply × List Char) :=
  match cs with
  | '.' :: '*' :: rest => do
    let (v, supply) ← supply.next
    match v with
    | .int n => do
      let _ ← bounded .countTooLong n.natAbs
      return (some n.toNat, supply, rest)
    | .bool b => return (some (if b then 1 else 0), supply, rest)
    | _ => .error (.misused "* wants int")
  | '.' :: rest => do
    let (n, rest) := readCount rest
    return (some (← bounded .precisionTooBig n), supply, rest)
  | cs => .ok (none, supply, cs)

/-- Characters without a letter for the length of a number, which means nothing. -/
def dropLength (cs : List Char) : List Char :=
  match cs with
  | 'h' :: rest | 'l' :: rest | 'L' :: rest => rest
  | cs => cs

/-- The name of a place, looked up, if there is one. -/
def readName (supply : Supply) (cs : List Char) :
    Except Fault (Option Value × Supply × List Char) :=
  match cs with
  | '(' :: rest =>
    match supply.named with
    | none => .error (.misused "format requires a mapping")
    | some _ =>
      match nameChars 0 rest with
      | none => .error .incompleteKey
      | some (name, rest) => do
        let (v, supply) ← supply.called (String.ofList name)
        return (some v, supply, rest)
  | cs => .ok (none, supply, cs)

/-- **One place**, from behind its percent sign on: what is written there, what is left of the
values, and what follows the place. -/
def fillPlace (length : Nat) (supply : Supply) (cs : List Char) :
    Except Fault (List Char × Supply × List Char) := do
  let (named, supply, cs) ← readName supply cs
  let (flags, cs) := readFlags {} cs
  let (flags, width, supply, cs) ← readWidth flags supply cs
  let (precision, supply, cs) ← readPrecision supply cs
  match dropLength cs with
  | [] => .error .incompleteTemplate
  | letter :: rest =>
    let place : Place := { flags, width, precision, letter }
    let (v, supply) ←
      match named with
      | some v => .ok (v, supply)
      | none => supply.next
    match write place v with
    | some written => return (← written, supply, rest)
    | none => .error (.unknownPlace letter (length - rest.length - 1))

/-! ### Whole templates -/

/-- The characters of a template from somewhere on. The first argument bounds the number of
characters left, the second is the length of the template. -/
def fillFrom : Nat → Nat → Supply → List Char → Except Fault (List Char)
  | 0, _, supply, _ => supply.close.map fun _ => []
  | _ + 1, _, supply, [] => supply.close.map fun _ => []
  | fuel + 1, length, supply, '%' :: '%' :: rest =>
    (fillFrom fuel length supply rest).map ('%' :: ·)
  | fuel + 1, length, supply, '%' :: rest =>
    match fillPlace length supply rest with
    | .error f => .error f
    | .ok (written, supply, rest) => (fillFrom fuel length supply rest).map (written ++ ·)
  | fuel + 1, length, supply, c :: rest => (fillFrom fuel length supply rest).map (c :: ·)

/-- **Filling a template.** Without values it is left as it is. -/
def fill (template : String) (args : List Value) : Except Fault String :=
  if args.isEmpty then .ok template
  else
    let cs := template.toList
    (fillFrom (cs.length + 1) cs.length (.ofArguments args) cs).map String.ofList

end RuleFlow.Template
