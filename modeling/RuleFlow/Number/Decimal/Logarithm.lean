import RuleFlow.Number.Decimal.Context

/-!
# Logarithms and exponentials

The natural logarithm and the exponential of decimals, rounded correctly to a precision. Both are
computed in fixed point, as whole numbers of a tiny unit, with enough spare digits that the
rounding is the rounding of the exact value.

* `RuleFlow.Number.Decimal.Fixed.artanhUnit` sums the series of the inverse hyperbolic tangent.
* `RuleFlow.Number.Decimal.ln` and `RuleFlow.Number.Decimal.exp` are the functions.
-/

namespace RuleFlow.Number.Decimal

/-! ### Fixed point -/

namespace Fixed

/-- The terms `z, z³/3, z⁵/5, …` still to be added, given the current power of `z`. The first
argument bounds their number. -/
def oddSeries (unit square : Int) : Nat → Int → Int → Int
  | 0, _, _ => 0
  | fuel + 1, power, k =>
    if power = 0 then 0
    else Int.tdiv power k + oddSeries unit square fuel (Int.tdiv (power * square) unit) (k + 2)

/-- **The inverse hyperbolic tangent** of `num / den` in units of `1 / unit`, for a small
argument. -/
def artanhUnit (unit : Nat) (num den : Int) : Int :=
  let z := Int.tdiv (num * unit) den
  oddSeries unit (Int.tdiv (z * z) unit) (unit.log2 + 2) z 1

/-- The logarithm of two. -/
def ln2 (unit : Nat) : Int :=
  2 * artanhUnit unit 1 3

/-- The logarithm of ten. -/
def ln10 (unit : Nat) : Int :=
  3 * ln2 unit + 2 * artanhUnit unit 1 9

/-- The logarithm of the ratio of two positive numbers. The ratio is first brought between a half
and two by a power of two. -/
def lnRatio (unit num den : Nat) : Int :=
  let twos : Int := (num.log2 : Int) - den.log2
  let num' := if twos < 0 then num * twoPow (-twos).toNat else num
  let den' := if 0 < twos then den * twoPow twos.toNat else den
  twos * ln2 unit + 2 * artanhUnit unit ((num' : Int) - den') ((num' : Int) + den')

/-- The terms of the exponential series still to be added, given the current term. -/
def expSeries (unit x : Int) : Nat → Int → Int → Int
  | 0, _, _ => 0
  | fuel + 1, term, k =>
    if term = 0 then 0
    else term + expSeries unit x fuel (Int.tdiv (Int.tdiv (term * x) unit) k) (k + 1)

/-- The exponential of `x / unit` in units of `1 / unit`, for an argument of a few units. -/
def exp (unit : Nat) (x : Int) : Int :=
  expSeries unit x (unit.log2 + 16) unit 1

end Fixed

/-! ### Rounded results -/

/-- A value of `n` units of `10 ^ exponent`, rounded to a number of digits. -/
def roundDigits (digits : Nat) (n : Int) (exponent : Int) : Bool × Nat × Int :=
  let c := n.natAbs
  let negative := decide (n < 0)
  let extra := digitCount c - digits
  if extra = 0 then (negative, c, exponent)
  else
    let c' := Rounding.halfEven.quotient negative c (tenPow extra)
    (negative, c', exponent + extra)

/-- **The natural logarithm** of `c * 10 ^ e`, for a positive `c`, to a number of digits. The
logarithm is at least as large as the distance of its argument from one, so the digits of the
argument are spared once more for it. -/
def ln (digits c : Nat) (e : Int) : Bool × Nat × Int :=
  let places := digits + digitCount c + 20
  let unit := tenPow places
  let leading := adjusted c e
  let value := leading * Fixed.ln10 unit + Fixed.lnRatio unit c (tenPow (digitCount c - 1))
  roundDigits digits value (-places)

/-- **The exponential** of a number to a number of digits. The argument is split into a multiple
of the logarithm of ten, which is an exponent, and a rest. -/
def exp (digits : Nat) (negative : Bool) (c : Nat) (e : Int) : Nat × Int :=
  if adjusted c e < -(digits : Int) - 2 then (1, 0)
  else
    let places := digits + 30 + (adjusted c e).toNat
    let unit := tenPow places
    let x : Int :=
      signed negative (if 0 ≤ e + places then c * tenPow (e + places).toNat
        else c / tenPow (-(e + places)).toNat)
    let ten := Fixed.ln10 unit
    let tens := x.fdiv ten
    let (_, c', e') := roundDigits digits (Fixed.exp unit (x - tens * ten)) (-places)
    (c', e' + tens)

end RuleFlow.Number.Decimal
