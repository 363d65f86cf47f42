import RuleFlow.Number.Decimal.Basic
import RuleFlow.Text.CodeRange
import RuleFlow.Text.Search

/-!
# The text of decimal numbers

* `RuleFlow.Number.Decimal.toText` writes a decimal so that its exponent can be read off: with a
  point where that is possible without zeros of its own, in scientific form otherwise.
* `RuleFlow.Number.Decimal.toFixedText` never uses the scientific form.
* `RuleFlow.Number.Decimal.ofText?` reads numerals with digits of any script, low lines between
  digits, and the names of the special values.
-/

namespace RuleFlow.Number.Decimal

/-! ### Writing -/

/-- The sign in front of a negative number. -/
def signChars (negative : Bool) : List Char :=
  if negative then ['-'] else []

/-- Digits with a point before the last `places` of them, and a zero before the point where no
digit is left for it. -/
def pointed (digits : List Char) (places : Nat) : List Char :=
  if places = 0 then digits
  else
    let whole := digits.length - places
    if whole = 0 then '0' :: '.' :: (List.replicate (places - digits.length) '0' ++ digits)
    else digits.take whole ++ '.' :: digits.drop whole

/-- An exponent with its sign. -/
def exponentChars (exponent : Int) : List Char :=
  (if exponent < 0 then '-' else '+') :: digitChars exponent.natAbs

/-- **The text of a number.** A number is written with a point if it has no more than five zeros
after the point before its first digit and no zeros of its own before the point; otherwise it is
written with one digit before the point and an exponent. -/
def toChars : Decimal → List Char
  | .infinite negative => signChars negative ++ "Infinity".toList
  | .nan negative signaling payload =>
    signChars negative ++ (if signaling then ['s'] else []) ++ "NaN".toList ++
      (if payload = 0 then [] else digitChars payload)
  | .finite negative coefficient exponent =>
    let digits := digitChars coefficient
    let leading := exponent + digits.length
    signChars negative ++
      if exponent ≤ 0 ∧ -6 < leading then pointed digits (-exponent).toNat
      else
        digits.take 1 ++ (if digits.length = 1 then [] else '.' :: digits.drop 1) ++
          'E' :: exponentChars (leading - 1)

/-- The text of a decimal. -/
def toText (d : Decimal) : String :=
  String.ofList d.toChars

/-- **The text of a number without an exponent**, its trailing zeros written out. -/
def toFixedText : Decimal → String
  | .finite negative coefficient exponent =>
    String.ofList (signChars negative ++
      if 0 < exponent then
        if coefficient = 0 then ['0']
        else digitChars coefficient ++ List.replicate exponent.toNat '0'
      else pointed (digitChars coefficient) (-exponent).toNat)
  | other => other.toText

/-! ### Reading -/

/-- The characters that a numeral is read from: digits of any script become the common ones,
white space at the ends and low lines are dropped. -/
def numeralChars (cs : List Char) : List Char :=
  (Text.trimChars cs).filterMap fun c =>
    if c = '_' then none
    else
      match Text.digitValue? c with
      | some d => some (Char.ofNat (48 + d))
      | none => some c

/-- The value of a sequence of decimal digits. -/
def digitsValue (cs : List Char) : Nat :=
  cs.foldl (fun n c => n * 10 + (c.toNat - 48)) 0

/-- A character without its case, for the letters of numerals. -/
def plainLower (c : Char) : Char :=
  if 65 ≤ c.toNat ∧ c.toNat ≤ 90 then Char.ofNat (c.toNat + 32) else c

/-- The largest magnitude of an exponent that a decimal can have. -/
def exponentLimit : Int := 999999999999999999

/-- The exponent after a numeral: nothing, or a mark with a signed whole number. -/
def exponent? : List Char → Option Int
  | [] => some 0
  | mark :: rest =>
    if plainLower mark ≠ 'e' then none
    else
      let (negative, digits) :=
        match rest with
        | '-' :: ds => (true, ds)
        | '+' :: ds => (false, ds)
        | ds => (false, ds)
      if digits.isEmpty || !digits.all Char.isDigit then none
      else some (signed negative (digitsValue digits))

/-- The least exponent that a decimal can have: the last of as many digits as the limit allows,
below the least leading digit. -/
def leastExponent : Int := -(2 * exponentLimit - 1)

/-- **The limits of an exact reading**: the exponents of the leading digit and of the last one
stay within what a decimal can hold. -/
def bounded? (negative : Bool) (coefficient : Nat) (exponent : Int) : Option Decimal :=
  let leading := if coefficient = 0 then exponent else adjusted coefficient exponent
  if leading ≤ exponentLimit ∧ leastExponent ≤ exponent then
    some (.finite negative coefficient exponent)
  else none

/-- A numeral without its sign. -/
def magnitude? (negative : Bool) (cs : List Char) : Option Decimal :=
  let whole := cs.takeWhile Char.isDigit
  let rest := cs.dropWhile Char.isDigit
  let (fraction, tail) :=
    match rest with
    | '.' :: more => (more.takeWhile Char.isDigit, more.dropWhile Char.isDigit)
    | _ => ([], rest)
  if whole.isEmpty && fraction.isEmpty then none
  else
    (exponent? tail).bind fun e =>
      bounded? negative (digitsValue (whole ++ fraction)) (e - fraction.length)

/-- A special value without its sign. -/
def special? (negative : Bool) (cs : List Char) : Option Decimal :=
  let low := cs.map plainLower
  if low = "inf".toList ∨ low = "infinity".toList then some (.infinite negative)
  else
    let (signaling, body) :=
      match low with
      | 's' :: more => (true, more)
      | _ => (false, low)
    match body with
    | 'n' :: 'a' :: 'n' :: digits =>
      if digits.all Char.isDigit then some (.nan negative signaling (digitsValue digits))
      else none
    | _ => none

/-- **Reading a decimal** from a sequence of characters. -/
def ofChars? (cs : List Char) : Option Decimal :=
  let (negative, body) :=
    match numeralChars cs with
    | '-' :: rest => (true, rest)
    | '+' :: rest => (false, rest)
    | rest => (false, rest)
  match magnitude? negative body with
  | some d => some d
  | none => special? negative body

/-- Reading a decimal from a text. -/
def ofText? (s : String) : Option Decimal :=
  ofChars? s.toList

end RuleFlow.Number.Decimal
