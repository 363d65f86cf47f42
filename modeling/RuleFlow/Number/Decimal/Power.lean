import RuleFlow.Number.Decimal.Logarithm

/-!
# Powers and roots

A power with a whole exponent is computed by repeated squaring with some digits to spare; any
other as the exponential of a multiple of the logarithm.

* `RuleFlow.Number.Decimal.Context.pow` is the operation, with its special cases in order: zero
  bases, negative bases, exponent zero, a base of magnitude one, and powers that are certainly
  out of range.
* `RuleFlow.Number.floorRoot` is the whole part of the square root of a natural number.
* `RuleFlow.Number.Decimal.Context.sqrt` is the square root of a decimal, rounded to the precision
  of a context.
-/

namespace RuleFlow.Number.Decimal.Context

variable (ctx : Context)

/-! ### Whole numbers among decimals -/

/-- A coefficient without trailing zeros, with its exponent. The first argument bounds the number
of zeros. -/
def dropZeros : Nat → Nat → Int → Nat × Int
  | 0, c, e => (c, e)
  | fuel + 1, c, e => if c ≠ 0 ∧ c % 10 = 0 then dropZeros fuel (c / 10) (e + 1) else (c, e)

/-- Whether `c * 10 ^ e` is whole. -/
def isWhole (c : Nat) (e : Int) : Bool :=
  c == 0 || decide (0 ≤ (dropZeros (digitCount c) c e).2)

/-- Whether the whole number `c * 10 ^ e` is odd. -/
def isOdd (c : Nat) (e : Int) : Bool :=
  let (c, e) := dropZeros (digitCount c) c e
  e == 0 && c % 2 == 1

/-! ### Repeated squaring -/

/-- The power of a finite decimal by the binary digits of the exponent, given from the second
most significant on. It stops early at a zero, which no further factor changes. -/
def squareUp (base : Decimal) : List Bool → Decimal → Except Signal Decimal
  | [], acc => .ok acc
  | bit :: bits, acc => do
    let square ← ctx.mul acc acc
    let next ← if bit then ctx.mul square base else .ok square
    if next.isZero then .ok next else squareUp base bits next

/-- The binary digits of a number, the least significant first. The first argument bounds their
number. -/
def bitsFrom : Nat → Nat → List Bool
  | 0, _ => []
  | fuel + 1, n => if n = 0 then [] else (n % 2 == 1) :: bitsFrom fuel (n / 2)

/-- The binary digits of a positive number after its first, the most significant first. -/
def lowerBits (n : Nat) : List Bool :=
  (bitsFrom (n.log2 + 1) n).reverse.drop 1

/-- **A power with a whole exponent** that is not zero. The digits to spare grow with the
exponent; a negative exponent takes the power of the reciprocal. -/
def powWhole (negative : Bool) (c : Nat) (e : Int) (downward : Bool) (ec : Nat) (ee : Int) :
    Except Signal Decimal :=
  let digits : Int := ctx.precision + digitCount ec + ee + 2 + (if downward then 1 else 0)
  let work : Context := { ctx with precision := digits.toNat }
  let n := if 0 ≤ ee then ec * tenPow ee.toNat else ec / tenPow (-ee).toNat
  let base : Decimal := .finite false c e
  match (do
    let base ← if downward then work.div (.finite false 1 0) base else .ok base
    work.squareUp base (lowerBits n) base) with
  | .error signal => .error signal
  | .ok (.finite _ rc re) => ctx.fit negative rc re
  | .ok other => .ok other

/-! ### Powers out of range -/

/-- A lower bound of the decimal logarithm of the magnitude of the logarithm of a positive number
other than one. -/
def logLogBound (c : Nat) (e : Int) : Int :=
  let t := adjusted c e
  if 0 < t then digitCount t.natAbs - 1
  else if t < -1 then digitCount (t + 1).natAbs - 1
  else
    let unit := min e 0
    let distance := (signedAt false c e unit - signedAt false 1 0 unit).natAbs
    let u := adjusted distance unit
    if t = 0 then u - 2 else u - 1

/-- The result of a power that is certainly out of range, or nothing where it may be in range. -/
def outOfRange? (negative : Bool) (c : Nat) (e : Int) (downward : Bool) (ec : Nat) (ee : Int) :
    Option (Except Signal Decimal) :=
  let bound := logLogBound c e + adjusted ec ee
  if decide (adjusted c e < 0) != downward then
    if (digitCount ctx.tiny.natAbs : Int) < bound then
      some (.ok (.finite negative 0 ctx.tiny))
    else none
  else if (digitCount ctx.maxExponent.natAbs : Int) < bound then some (.error .overflow)
  else none

/-! ### The operation -/

/-- A one with all the digits of the precision. -/
def paddedOne (negative : Bool) (places : Nat) : Decimal :=
  .finite negative (tenPow places) (-places)

/-- The power of one, or of minus one: an exact power keeps the places that multiplying it out
would produce, as far as the precision goes. -/
def powOne (negative : Bool) (e : Int) (downward : Bool) (ec : Nat) (ee : Int) : Decimal :=
  if isWhole ec ee then
    if downward then .finite negative 1 0
    else
      let places :=
        if 0 ≤ e then 0
        else if (ctx.precision : Int) < adjusted ec ee then ctx.precision - 1
        else
          let n := if 0 ≤ ee then ec * tenPow ee.toNat else ec / tenPow (-ee).toNat
          min (n * (-e).toNat) (ctx.precision - 1)
      paddedOne negative places
  else paddedOne negative (ctx.precision - 1)

/-- **A power with an exponent that is not whole.** -/
def powReal (c : Nat) (e : Int) (downward : Bool) (ec : Nat) (ee : Int) :
    Except Signal Decimal :=
  let digits := max (digitCount c) ctx.precision + 23
  let (lnNegative, lc, le) := ln digits c e
  let (negative, pc, pe) :=
    roundDigits digits (signed (lnNegative != downward) (lc * ec)) (le + ee)
  let (rc, re) := Decimal.exp digits negative pc pe
  if compareMagnitude rc re 1 0 = .eq then .ok (paddedOne false (ctx.precision - 1))
  else ctx.fit false rc re

/-- **The power of two numbers.** Zero to the power zero, and a negative number to a power that
is not whole, have no value; zero to a negative power is infinite. -/
def pow : Decimal → Decimal → Except Signal Decimal
  | .finite n c e, .finite downward ec ee =>
    let negative := n && isOdd ec ee && isWhole ec ee
    if c = 0 then
      if ec = 0 then .error .invalidOperation
      else if downward then .ok (.infinite negative)
      else .ok (.finite negative 0 0)
    else if n && !isWhole ec ee then .error .invalidOperation
    else if ec = 0 then .ok (.finite negative 1 0)
    else if compareMagnitude c e 1 0 = .eq then .ok (ctx.powOne negative e downward ec ee)
    else
      match ctx.outOfRange? negative c e downward ec ee with
      | some result => result
      | none =>
        if isWhole ec ee then ctx.powWhole negative c e downward ec ee
        else ctx.powReal c e downward ec ee
  | _, _ => .error .invalidOperation

end RuleFlow.Number.Decimal.Context

namespace RuleFlow.Number

/-! ### Square roots -/

/-- Newton's iteration for a square root, from a start above it. The first argument bounds the
number of steps. -/
def floorRootFrom (n : Nat) : Nat → Nat → Nat
  | 0, guess => guess
  | fuel + 1, guess =>
    let next := n / guess
    if guess ≤ next then guess else floorRootFrom n fuel ((guess + next) / 2)

/-- **The whole part of a square root.** The start is a power of two above the root. -/
def floorRoot (n : Nat) : Nat :=
  if n = 0 then 0 else floorRootFrom n (n.log2 + 2) (twoPow (n.log2 / 2 + 1))

namespace Decimal.Context

/-- **The square root of a number that is not negative.** An exact root has half the exponent of
its square; any other has one digit more than the precision, which is never a five or a zero, so
that rounding it is rounding the root. -/
def sqrt (ctx : Context) : Decimal → Except Signal Decimal
  | .finite n c e =>
    if c = 0 then ctx.fit n 0 (e.fdiv 2)
    else if n then .error .invalidOperation
    else
      let half := e.fdiv 2
      let odd := e.fmod 2 = 1
      let square := if odd then c * 10 else c
      let pairs := if odd then digitCount c / 2 + 1 else (digitCount c + 1) / 2
      let shift : Int := (ctx.precision : Int) + 1 - pairs
      let wide := if 0 ≤ shift then square * tenPow (2 * shift.toNat)
        else square / tenPow (2 * (-shift).toNat)
      let lossless := decide (0 ≤ shift) || square % tenPow (2 * (-shift).toNat) == 0
      let root := floorRoot wide
      if lossless && root * root == wide then
        let exact := if 0 ≤ shift then root / tenPow shift.toNat else root * tenPow (-shift).toNat
        ctx.fit false exact half
      else ctx.fit false (if root % 5 = 0 then root + 1 else root) (half - shift)
  | _ => .error .invalidOperation

end Decimal.Context

end RuleFlow.Number
