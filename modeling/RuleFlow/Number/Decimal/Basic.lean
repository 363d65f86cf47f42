import RuleFlow.Number.Rounding

/-!
# Decimal numbers

A decimal number is a sign, a coefficient and a power of ten. Numbers of the same value and
different exponents are different decimals: `1.0` and `1.00` have different texts.

* `RuleFlow.Number.Decimal` is the type, with the two infinities and the two kinds of NaN.
* `RuleFlow.Number.Decimal.compareFinite` orders finite decimals by value.
* `RuleFlow.Number.Decimal.signedAt` is the value of a finite decimal in units of a power of ten.
-/

namespace RuleFlow.Number

/-- **Decimal numbers**: `(-1) ^ negative * coefficient * 10 ^ exponent`, or a special value. -/
inductive Decimal where
  /-- A number, which may be a zero of either sign. -/
  | finite (negative : Bool) (coefficient : Nat) (exponent : Int)
  /-- An infinity. -/
  | infinite (negative : Bool)
  /-- Not a number; a signalling one is refused even by equality. -/
  | nan (negative signaling : Bool) (payload : Nat)
deriving DecidableEq, Repr

namespace Decimal

/-- A whole number, with exponent zero. -/
def ofInt (n : Int) : Decimal :=
  .finite (decide (n < 0)) n.natAbs 0

/-- A natural number, with exponent zero. -/
def ofNat (n : Nat) : Decimal :=
  .finite false n 0

/-- Zero, with exponent zero. -/
def zero : Decimal :=
  .finite false 0 0

/-- Whether a decimal is a number. -/
def isFinite : Decimal → Bool
  | .finite .. => true
  | _ => false

/-- Whether a decimal is not a number. -/
def isNaN : Decimal → Bool
  | .nan .. => true
  | _ => false

/-- Whether a decimal is a signalling NaN. -/
def isSignaling : Decimal → Bool
  | .nan _ signaling _ => signaling
  | _ => false

/-- Whether a decimal is a zero. -/
def isZero : Decimal → Bool
  | .finite _ coefficient _ => coefficient == 0
  | _ => false

/-- The other sign. -/
def negate : Decimal → Decimal
  | .finite negative c e => .finite (!negative) c e
  | .infinite negative => .infinite (!negative)
  | .nan negative signaling payload => .nan (!negative) signaling payload

/-- The exponent of the most significant digit of `coefficient * 10 ^ exponent`. -/
def adjusted (coefficient : Nat) (exponent : Int) : Int :=
  exponent + digitCount coefficient - 1

/-- The coefficient of `coefficient * 10 ^ exponent` in units of `10 ^ unit`, for a unit no
larger than the exponent. -/
def scaled (coefficient : Nat) (exponent unit : Int) : Nat :=
  coefficient * tenPow (exponent - unit).toNat

/-- The value of a signed magnitude. -/
def signed (negative : Bool) (magnitude : Nat) : Int :=
  if negative then -magnitude else magnitude

/-- **The value of a finite decimal** in units of `10 ^ unit`, for a unit no larger than its
exponent. -/
def signedAt (negative : Bool) (coefficient : Nat) (exponent unit : Int) : Int :=
  signed negative (scaled coefficient exponent unit)

/-- The order of two magnitudes. Magnitudes of different adjusted exponents need no common
unit, so a comparison never writes out a long row of zeros. -/
def compareMagnitude (c₁ : Nat) (e₁ : Int) (c₂ : Nat) (e₂ : Int) : Ordering :=
  if c₁ = 0 then (if c₂ = 0 then .eq else .lt)
  else if c₂ = 0 then .gt
  else
    match compare (adjusted c₁ e₁) (adjusted c₂ e₂) with
    | .eq =>
      let unit := min e₁ e₂
      compare (scaled c₁ e₁ unit) (scaled c₂ e₂ unit)
    | other => other

/-- **The order of finite decimals by value.** The two zeros are equal. -/
def compareFinite (n₁ : Bool) (c₁ : Nat) (e₁ : Int) (n₂ : Bool) (c₂ : Nat) (e₂ : Int) :
    Ordering :=
  if c₁ = 0 ∧ c₂ = 0 then .eq
  else
    match n₁ && c₁ != 0, n₂ && c₂ != 0 with
    | true, false => .lt
    | false, true => .gt
    | false, false => compareMagnitude c₁ e₁ c₂ e₂
    | true, true => compareMagnitude c₂ e₂ c₁ e₁

/-- The order of two decimals, or nothing if either is a NaN. -/
def compare? : Decimal → Decimal → Option Ordering
  | .nan .., _ => none
  | _, .nan .. => none
  | .infinite n₁, .infinite n₂ =>
    some (if n₁ = n₂ then .eq else if n₁ then .lt else .gt)
  | .infinite n, .finite .. => some (if n then .lt else .gt)
  | .finite .., .infinite n => some (if n then .gt else .lt)
  | .finite n₁ c₁ e₁, .finite n₂ c₂ e₂ => some (compareFinite n₁ c₁ e₁ n₂ c₂ e₂)

/-- The whole part of a finite decimal, the fraction cut off. A fraction longer than the
coefficient leaves nothing. -/
def truncate (negative : Bool) (coefficient : Nat) (exponent : Int) : Int :=
  if 0 ≤ exponent then signed negative (coefficient * tenPow exponent.toNat)
  else if (digitCount coefficient : Int) + exponent ≤ 0 then 0
  else signed negative (coefficient / tenPow (-exponent).toNat)

end Decimal

end RuleFlow.Number
