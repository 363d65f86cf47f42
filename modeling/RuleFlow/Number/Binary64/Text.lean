import RuleFlow.Number.Binary64.Shortest
import RuleFlow.Number.Decimal.Text

/-!
# The text of doubles

* `RuleFlow.Number.Binary64.toText` writes a double with its shortest digits.
* `RuleFlow.Number.Binary64.ofText?` reads a numeral of any number of digits.
* `RuleFlow.Number.Binary64.toShortDecimal` is the decimal that the text of a double denotes.
-/

namespace RuleFlow.Number.Binary64

/-- The choices of a notation for doubles. -/
structure Style where
  /-- The least exponent of a leading digit that is written with a point. -/
  leastPositional : Int
  /-- The first exponent of a leading digit that is written in scientific form again. -/
  scientificFrom : Int
  /-- The least number of digits of a written exponent. -/
  exponentDigits : Nat

/-- **The notation of every written double**: with a point from four zeros after it up to sixteen
digits before it, and exponents of at least two digits. -/
def plainStyle : Style :=
  { leastPositional := -4, scientificFrom := 16, exponentDigits := 2 }

/-- Digits without the zeros at their end. The first argument bounds the number of zeros. -/
def dropTrailingZeros : Nat → Nat → Int → Nat × Int
  | 0, n, e => (n, e)
  | fuel + 1, n, e =>
    if n ≠ 0 ∧ n % 10 = 0 then dropTrailingZeros fuel (n / 10) (e + 1) else (n, e)

/-- A magnitude of the given digits, `digits * 10 ^ unit`. -/
def magnitudeChars (style : Style) (digits : Nat) (unit : Int) : List Char :=
  let ds := digitChars digits
  let leading := unit + ds.length - 1
  if style.leastPositional ≤ leading ∧ leading < style.scientificFrom then
    if unit < 0 then Decimal.pointed ds (-unit).toNat
    else ds ++ List.replicate unit.toNat '0' ++ ['.', '0']
  else
    ds.take 1 ++ (if ds.length = 1 then [] else '.' :: ds.drop 1) ++
      'e' :: (if leading < 0 then '-' else '+') ::
        paddedDigits style.exponentDigits leading.natAbs

/-- **The characters of a double.** -/
def toChars : Binary64 → List Char
  | .nan _ => "nan".toList
  | .infinite negative => Decimal.signChars negative ++ "inf".toList
  | .finite x =>
    let (digits, unit) := x.shortest
    let (digits, unit) := dropTrailingZeros 20 digits unit
    Decimal.signChars x.negative ++ magnitudeChars plainStyle digits unit

/-- **The text of a double.** -/
def toText (x : Binary64) : String :=
  String.ofList x.toChars

/-- The decimal with the digits of a double's text. -/
def toShortDecimal (x : Binary64) : Decimal :=
  (Decimal.ofChars? x.toChars).getD .zero

/-- **Reading a double**: a decimal numeral, rounded to the nearest double, or the name of a
special value. -/
def ofText? (s : String) : Option Binary64 :=
  (Decimal.ofText? s).map ofDecimal

end RuleFlow.Number.Binary64
