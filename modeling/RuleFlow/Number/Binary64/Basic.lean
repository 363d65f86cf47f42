import RuleFlow.Number.Decimal.Basic

/-!
# Double-precision numbers

A double is a signed whole multiple of a power of two, or a special value. The representation is
canonical: equal numbers of the same sign are equal values of the type. Of the doubles that are not
numbers it is known which object they are, as lists and records find them by that.

* `RuleFlow.Number.Binary64` is the type, `RuleFlow.Number.Binary64.Finite` its numbers.
* `RuleFlow.Number.Nan` tells which object a NaN is.
* `RuleFlow.Number.Binary64.ofRatio` rounds a ratio of natural numbers to the nearest double, a
  tie to the even mantissa.
* `RuleFlow.Number.Binary64.toDecimal` is the exact decimal value of a double.
-/

namespace RuleFlow.Number

namespace Binary64

/-- Whether `mantissa * 2 ^ exponent` is the canonical form of a double: the mantissa has at most
fifty-three bits, and exactly so many unless the exponent is the least one. -/
def Canonical (mantissa : Nat) (exponent : Int) : Prop :=
  mantissa < twoPow 53 ∧ -1074 ≤ exponent ∧ exponent ≤ 971 ∧
    (twoPow 52 ≤ mantissa ∨ exponent = -1074)

instance (mantissa : Nat) (exponent : Int) : Decidable (Canonical mantissa exponent) :=
  inferInstanceAs (Decidable (_ ∧ _ ∧ _ ∧ _))

/-- **The finite doubles**: `(-1) ^ negative * mantissa * 2 ^ exponent`. -/
structure Finite where
  /-- The sign, which zeros have too. -/
  negative : Bool
  /-- The mantissa as a whole number. -/
  mantissa : Nat
  /-- The power of two by which it is multiplied. -/
  exponent : Int
  /-- There is one form for each number. -/
  canonical : Canonical mantissa exponent
deriving DecidableEq, Repr

end Binary64

/-- **Which object a NaN is.** A NaN is equal to no number, not even to itself. But a list that is
looked through for it takes it for the same item where it is the same object. -/
inductive Nan where
  /-- The result of a computation, to which nothing else refers. -/
  | fresh
  /-- The one that the word for it stands for in every document. -/
  | document
  /-- One that a caller hands over, by the place where it stands. -/
  | given (place : String)
  /-- One that a program has made from its text, by the place where it did. -/
  | written (place : List Nat)
deriving DecidableEq, Repr

/-- **Double-precision numbers**: the finite ones, two infinities, and the NaNs. -/
inductive Binary64 where
  /-- A number, which may be a zero of either sign. -/
  | finite (value : Binary64.Finite)
  /-- An infinity. -/
  | infinite (negative : Bool)
  /-- Not a number. -/
  | nan (which : Nan)
deriving DecidableEq, Repr

namespace Binary64

/-- A zero. -/
def zero (negative : Bool) : Binary64 :=
  .finite ⟨negative, 0, -1074, by decide⟩

/-- Whether two doubles are known to be one object that is not a number. -/
def sameNan : Binary64 → Binary64 → Bool
  | .nan which, .nan which' => which == which' && which != .fresh
  | _, _ => false

/-- A double, and if it is not a number a certain object. -/
def asNan (which : Nan) : Binary64 → Binary64
  | .nan _ => .nan which
  | x => x

/-! ### Rounding to a double -/

/-- The whole part of the binary logarithm of a ratio of positive numbers. -/
def ratioLog2 (num den : Nat) : Int :=
  let k : Int := (num.log2 : Int) - den.log2
  let reached := if 0 ≤ k then den * twoPow k.toNat ≤ num else den ≤ num * twoPow (-k).toNat
  if reached then k else k - 1

/-- The nearest mantissa of a ratio at an exponent, a tie to even. -/
def mantissaAt (num den : Nat) (exponent : Int) : Nat :=
  if 0 ≤ exponent then Rounding.halfEven.quotient false num (den * twoPow exponent.toNat)
  else Rounding.halfEven.quotient false (num * twoPow (-exponent).toNat) den

/-- **The double nearest to a ratio** of natural numbers, with a sign. A ratio that rounds beyond
the largest mantissa at the largest exponent becomes an infinity. -/
def ofRatio (negative : Bool) (num den : Nat) : Binary64 :=
  if num = 0 then zero negative
  else
    let exponent := max (-1074) (ratioLog2 num den - 52)
    let mantissa := mantissaAt num den exponent
    -- rounding may carry into one bit more than the mantissa has
    let (m, e) := if mantissa = twoPow 53 then (twoPow 52, exponent + 1) else (mantissa, exponent)
    if h : Canonical m e then .finite ⟨negative, m, e, h⟩ else .infinite negative

/-- The double nearest to `coefficient * 10 ^ exponent`. Exponents far beyond the range of
doubles are decided without writing the number out. -/
def ofScientific (negative : Bool) (coefficient : Nat) (exponent : Int) : Binary64 :=
  if coefficient = 0 then zero negative
  else if 400 < Decimal.adjusted coefficient exponent then .infinite negative
  else if Decimal.adjusted coefficient exponent < -400 then zero negative
  else if 0 ≤ exponent then ofRatio negative (coefficient * tenPow exponent.toNat) 1
  else ofRatio negative coefficient (tenPow (-exponent).toNat)

/-- The double nearest to a whole number. -/
def ofInt (n : Int) : Binary64 :=
  ofRatio (decide (n < 0)) n.natAbs 1

/-- The double nearest to a decimal. -/
def ofDecimal : Decimal → Binary64
  | .finite negative c e => ofScientific negative c e
  | .infinite negative => .infinite negative
  | .nan .. => .nan .fresh

/-! ### The value of a double -/

/-- The magnitude of a finite double as a ratio. -/
def Finite.ratio (x : Finite) : Nat × Nat :=
  if 0 ≤ x.exponent then (x.mantissa * twoPow x.exponent.toNat, 1)
  else (x.mantissa, twoPow (-x.exponent).toNat)

/-- **The exact decimal value** of a double: a negative power of two is a power of five over a
power of ten. -/
def toDecimal : Binary64 → Decimal
  | .finite x =>
    if 0 ≤ x.exponent then .finite x.negative (x.mantissa * twoPow x.exponent.toNat) 0
    else .finite x.negative (x.mantissa * Nat.pow 5 (-x.exponent).toNat) x.exponent
  | .infinite negative => .infinite negative
  | .nan _ => .nan false false 0

/-- The whole part of a finite double, the fraction cut off. -/
def Finite.truncate (x : Finite) : Int :=
  Decimal.signed x.negative (x.ratio.1 / x.ratio.2)

/-- Whether a double is a zero. -/
def isZero : Binary64 → Bool
  | .finite x => x.mantissa == 0
  | _ => false

/-! ### Arithmetic -/

/-- The value of a finite double in units of `2 ^ unit`, for a unit no larger than its exponent. -/
def Finite.signedAt (x : Finite) (unit : Int) : Int :=
  Decimal.signed x.negative (x.mantissa * twoPow (x.exponent - unit).toNat)

/-- **The sum of two doubles.** An exact zero is negative only as the sum of two negatives. -/
def add : Binary64 → Binary64 → Binary64
  | .finite x, .finite y =>
    let unit := min x.exponent y.exponent
    let sum := x.signedAt unit + y.signedAt unit
    let negative := if sum = 0 then x.negative && y.negative else decide (sum < 0)
    if 0 ≤ unit then ofRatio negative (sum.natAbs * twoPow unit.toNat) 1
    else ofRatio negative sum.natAbs (twoPow (-unit).toNat)
  | .infinite n, .infinite m => if n = m then .infinite n else .nan .fresh
  | .nan _, _ => .nan .fresh
  | _, .nan _ => .nan .fresh
  | .infinite n, _ => .infinite n
  | _, .infinite n => .infinite n

end Binary64

end RuleFlow.Number
