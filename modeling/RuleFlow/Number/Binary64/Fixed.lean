import RuleFlow.Number.Binary64.Text

/-!
# Doubles with a fixed number of digits

Beside its shortest text a double has texts of a chosen number of digits. All are rounded from the
exact value, a tie to even.

* `RuleFlow.Number.Binary64.DigitForm` lists the forms.
* `RuleFlow.Number.Binary64.Finite.chars` writes the magnitude of a double in one of them.
-/

namespace RuleFlow.Number.Binary64

/-- **The forms of doubles** with a chosen number of digits. -/
inductive DigitForm where
  /-- So many digits after the point. -/
  | fixed
  /-- One digit before the point, so many after it, and an exponent. -/
  | scientific
  /-- So many digits in all, with an exponent for large and small numbers only. -/
  | general
deriving Repr, DecidableEq

/-- Digits with a point before the last `places` of them. The flag keeps a point that nothing
follows. -/
def withPoint (keepPoint : Bool) (digits : List Char) (places : Nat) : List Char :=
  let whole := digits.take (digits.length - places)
  let fraction := digits.drop (digits.length - places)
  whole ++ if fraction.isEmpty then (if keepPoint then ['.'] else []) else '.' :: fraction

/-- Digits without the zeros after the point at their end, nor the point if nothing follows it. -/
def dropZeros (chars : List Char) : List Char :=
  if chars.contains '.' then
    match chars.reverse.dropWhile (· == '0') with
    | '.' :: rest => rest.reverse
    | rest => rest.reverse
  else chars

/-- An exponent of at least two digits. -/
def exponentChars (exponent : Int) : List Char :=
  'e' :: (if exponent < 0 then '-' else '+') :: paddedDigits 2 exponent.natAbs

namespace Finite

/-- The magnitude with so many digits after the point. -/
def fixedChars (x : Finite) (keepPoint : Bool) (places : Nat) : List Char :=
  let (num, den) := x.ratio
  let scaled := Rounding.halfEven.quotient false (num * tenPow places) den
  withPoint keepPoint (paddedDigits (places + 1) scaled) places

/-- The first `places + 1` digits of the magnitude, and the exponent of the first one. -/
def leadingDigits (x : Finite) (places : Nat) : Nat × Int :=
  if x.mantissa = 0 then (0, 0)
  else
    let (num, den) := x.ratio
    let leading := ratioLog10 num den
    let (num, den) := ratioAt num den (leading - places)
    let digits := Rounding.halfEven.quotient false num den
    -- rounding may carry into one digit more
    if tenPow (places + 1) ≤ digits then (digits / 10, leading + 1) else (digits, leading)

/-- The magnitude with one digit before the point and so many after it. -/
def scientificChars (x : Finite) (keepPoint : Bool) (places : Nat) : List Char :=
  let (digits, exponent) := x.leadingDigits places
  withPoint keepPoint (paddedDigits (places + 1) digits) places ++ exponentChars exponent

/-- The magnitude with so many digits in all. Zeros at the end are kept with the point. -/
def generalChars (x : Finite) (keepPoint : Bool) (precision : Nat) : List Char :=
  let places := precision - 1
  let (digits, exponent) := x.leadingDigits places
  let trimmed := fun chars => if keepPoint then chars else dropZeros chars
  if -4 ≤ exponent ∧ exponent < max precision 1 then
    trimmed (x.fixedChars keepPoint ((places : Int) - exponent).toNat)
  else
    trimmed (withPoint keepPoint (paddedDigits (places + 1) digits) places) ++
      exponentChars exponent

/-- **The magnitude of a double** in a notation. -/
def chars (x : Finite) (shape : DigitForm) (keepPoint : Bool) (precision : Nat) : List Char :=
  match shape with
  | .fixed => x.fixedChars keepPoint precision
  | .scientific => x.scientificChars keepPoint precision
  | .general => x.generalChars keepPoint precision

end Finite

end RuleFlow.Number.Binary64
