import RuleFlow.Text.Quoted
import RuleFlow.Value.Basic

/-!
# Reading JSON

A JSON text is read into a value. Numbers without point and exponent are whole numbers, all others
are doubles. Beyond the standard, the words `NaN`, `Infinity` and `-Infinity` are numbers, and of
equal keys the last one wins.

* `RuleFlow.Json.read` reads a text, or tells at which character it is refused.
-/

namespace RuleFlow.Json

open Number

/-- A step of reading: what was read and the text that follows, or the text from the place of the
refusal on. -/
abbrev Reading (α : Type) := Except (List Char) (α × List Char)

/-- The white space of JSON. -/
def isSpace (c : Char) : Bool :=
  c == ' ' || c == '\t' || c == '\n' || c == '\r'

/-- A text without the white space at its start. -/
def skipSpace (cs : List Char) : List Char :=
  cs.dropWhile isSpace

/-! ### Texts -/

/-- The number written by four hexadecimal digits that are not the end of the text. -/
def fourDigits? : List Char → Option Nat
  | a :: b :: c :: d :: _ :: _ => do
    let high := (← Text.hexValue? a) * 16 + (← Text.hexValue? b)
    return (high * 16 + (← Text.hexValue? c)) * 16 + (← Text.hexValue? d)
  | _ => none

/-- Whether a number is the first half of a pair that stands for one character. -/
def isHighHalf (n : Nat) : Bool :=
  decide (0xD800 ≤ n) && decide (n ≤ 0xDBFF)

/-- Whether a number is the second half of a pair that stands for one character. -/
def isLowHalf (n : Nat) : Bool :=
  decide (0xDC00 ≤ n) && decide (n ≤ 0xDFFF)

/-- The character of a number, or the replacement character for half a pair. -/
def charOf (n : Nat) : Char :=
  if n.isValidChar then Char.ofNat n else Char.ofNat 0xFFFD

/-- An escape by code, the text starting at its first digit: the character and the number of
characters that it takes up. -/
def codeEscape (mark : List Char) (cs : List Char) : Except (List Char) (Char × Nat) :=
  match fourDigits? cs with
  | none => .error mark
  | some high =>
    match isHighHalf high, cs.drop 4 with
    | true, '\\' :: 'u' :: more =>
      if more.length < 5 then .ok (charOf high, 4)
      else
        match fourDigits? more with
        | none => .error ('u' :: more)
        | some low =>
          if isLowHalf low then
            .ok (charOf (0x10000 + (high - 0xD800) * 1024 + (low - 0xDC00)), 10)
          else .ok (charOf high, 4)
    | _, _ => .ok (charOf high, 4)

/-- An escape, the text starting at its backslash; `opening` is the text from the opening quote
on. -/
def escape (opening : List Char) : List Char → Except (List Char) (Char × Nat)
  | '\\' :: '"' :: _ => .ok ('"', 2)
  | '\\' :: '\\' :: _ => .ok ('\\', 2)
  | '\\' :: '/' :: _ => .ok ('/', 2)
  | '\\' :: 'b' :: _ => .ok ('\x08', 2)
  | '\\' :: 'f' :: _ => .ok ('\x0c', 2)
  | '\\' :: 'n' :: _ => .ok ('\n', 2)
  | '\\' :: 'r' :: _ => .ok ('\r', 2)
  | '\\' :: 't' :: _ => .ok ('\t', 2)
  | '\\' :: 'u' :: rest => (codeEscape ('u' :: rest) rest).map fun (c, width) => (c, width + 2)
  | [_] => .error opening
  | cs => .error cs

/-- The characters of a text up to its closing quote, with what has been read so far backwards. -/
def textChars (opening : List Char) (before : List Char) : List Char → Reading String
  | [] => .error opening
  | c :: rest =>
    if c = '"' then .ok (String.ofList before.reverse, rest)
    else if c = '\\' then
      match escape opening (c :: rest) with
      | .error place => .error place
      | .ok (d, width) => textChars opening (d :: before) (rest.drop (width - 1))
    else if c.toNat < 32 then .error (c :: rest)
    else textChars opening (c :: before) rest
termination_by cs => cs.length
decreasing_by all_goals simp_wf; try omega

/-! ### Numbers -/

/-- The digits after a mark, and the text behind them; without digits the mark belongs to that
text. -/
def fractionDigits : List Char → List Char × List Char
  | '.' :: rest =>
    let digits := rest.takeWhile Char.isDigit
    if digits.isEmpty then ([], '.' :: rest) else (digits, rest.drop digits.length)
  | cs => ([], cs)

/-- The exponent of a number, if there is one, and the text behind it. -/
def exponentPart (cs : List Char) : Option Int × List Char :=
  match cs with
  | [] => (none, cs)
  | e :: rest =>
    if e = 'e' ∨ e = 'E' then
      let (negative, unsigned) :=
        match rest with
        | '-' :: r => (true, r)
        | '+' :: r => (false, r)
        | r => (false, r)
      let digits := unsigned.takeWhile Char.isDigit
      if digits.isEmpty then (none, cs)
      else
        (some (Decimal.signed negative (Decimal.digitsValue digits)), unsigned.drop digits.length)
    else (none, cs)

/-- **A number.** Zero is the only whole part that starts with a zero. -/
def number (cs : List Char) : Reading Value :=
  let (negative, unsigned) :=
    match cs with
    | '-' :: rest => (true, rest)
    | _ => (false, cs)
  let whole :=
    match unsigned with
    | '0' :: _ => ['0']
    | _ => unsigned.takeWhile Char.isDigit
  if whole.isEmpty then .error cs
  else
    let (fraction, rest) := fractionDigits (unsigned.drop whole.length)
    let (exponent, rest) := exponentPart rest
    if fraction.isEmpty ∧ exponent.isNone then
      .ok (.int (Decimal.signed negative (Decimal.digitsValue whole)), rest)
    else
      let coefficient := Decimal.digitsValue (whole ++ fraction)
      let unit := exponent.getD 0 - fraction.length
      .ok (.float (.ofScientific negative coefficient unit), rest)

/-! ### Values -/

/-- The words that are values. -/
def words : List (String × Value) :=
  [("null", .null), ("true", .bool true), ("false", .bool false), ("NaN", .float (.nan .document)),
    ("Infinity", .float (.infinite false)), ("-Infinity", .float (.infinite true))]

/-- A word or a number. -/
def scalar (cs : List Char) : Reading Value :=
  match words.find? fun (word, _) => word.toList.isPrefixOf cs with
  | some (word, v) => .ok (v, cs.drop word.length)
  | none => number cs

mutual

/-- **A value**, the text starting at its first character. The first argument bounds the number of
values, items and fields. -/
def value : Nat → List Char → Reading Value
  | 0, cs => .error cs
  | fuel + 1, cs =>
    match cs with
    | '"' :: rest =>
      match textChars cs [] rest with
      | .error place => .error place
      | .ok (s, rest) => .ok (.text s, rest)
    | '[' :: rest =>
      match skipSpace rest with
      | ']' :: rest => .ok (.list [], rest)
      | rest => items fuel [] rest
    | '\x7b' :: rest =>
      match skipSpace rest with
      | '\x7d' :: rest => .ok (.record [], rest)
      | rest => fields fuel [] rest
    | cs => scalar cs

/-- The items of a list from the next one on, with those before backwards. -/
def items : Nat → List Value → List Char → Reading Value
  | 0, _, cs => .error cs
  | fuel + 1, before, cs =>
    match value fuel cs with
    | .error place => .error place
    | .ok (v, rest) =>
      match skipSpace rest with
      | ']' :: rest => .ok (.list (v :: before).reverse, rest)
      | ',' :: rest => items fuel (v :: before) (skipSpace rest)
      | rest => .error rest

/-- The fields of a record from the next one on, with those before backwards. -/
def fields : Nat → List (String × Value) → List Char → Reading Value
  | 0, _, cs => .error cs
  | fuel + 1, before, cs =>
    match cs with
    | '"' :: rest =>
      match textChars cs [] rest with
      | .error place => .error place
      | .ok (key, rest) =>
        match skipSpace rest with
        | ':' :: rest =>
          match value fuel (skipSpace rest) with
          | .error place => .error place
          | .ok (v, rest) =>
            let before := (key, v) :: before
            match skipSpace rest with
            | '\x7d' :: rest => .ok (.record (Keyed.ofPairs before.reverse), rest)
            | ',' :: rest => fields fuel before (skipSpace rest)
            | rest => .error rest
        | rest => .error rest
    | cs => .error cs

end

/-- **Reading a JSON text.** A refusal is the number of characters before the place where the text
stops being JSON. -/
def read (s : String) : Except Nat Value :=
  let cs := s.toList
  let result : Except (List Char) Value :=
    -- a mark of byte order is not skipped
    if cs.head? = some '\uFEFF' then .error cs
    else
      match value (2 * cs.length + 2) (skipSpace cs) with
      | .error place => .error place
      | .ok (v, rest) => if (skipSpace rest).isEmpty then .ok v else .error (skipSpace rest)
  result.mapError fun place => cs.length - place.length

end RuleFlow.Json
