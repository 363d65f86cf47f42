import RuleFlow.Number.Binary64.Basic

/-!
# The shortest decimal of a double

Among the decimals that round to a double there are some with the fewest digits, and among those
one nearest to the double. It is found by trying one digit, two digits, and so on: the two
neighbours of the double on each grid are rounded back, and the first grid on which one of them
returns to the double wins.

* `RuleFlow.Number.Binary64.Finite.shortest`: the digits and the exponent.
-/

namespace RuleFlow.Number.Binary64.Finite

/-- The exponent of the leading decimal digit of a positive ratio. -/
def ratioLog10 (num den : Nat) : Int :=
  let k : Int := (digitCount num : Int) - digitCount den
  let reached := if 0 ≤ k then den * tenPow k.toNat ≤ num else den ≤ num * tenPow (-k).toNat
  if reached then k else k - 1

/-- A ratio in units of `10 ^ unit`. -/
def ratioAt (num den : Nat) (unit : Int) : Nat × Nat :=
  if 0 ≤ unit then (num, den * tenPow unit.toNat) else (num * tenPow (-unit).toNat, den)

/-- Whether a decimal rounds to the double. -/
def readsBack (x : Finite) (digits : Nat) (unit : Int) : Bool :=
  ofScientific x.negative digits unit == .finite x

/-- The better neighbour of the double on one grid, if any reads back. Of two that do, the nearer
is the better one, and of two equally near ones the even one. -/
def onGrid? (x : Finite) (num den : Nat) (unit : Int) : Option Nat :=
  let (n, d) := ratioAt num den unit
  let below := n / d
  let rest := n % d
  let lower := x.readsBack below unit
  let upper := x.readsBack (below + 1) unit
  if lower && upper then
    some (if 2 * rest < d ∨ (2 * rest = d ∧ below % 2 = 0) then below else below + 1)
  else if lower then some below
  else if upper then some (below + 1)
  else none

/-- The grids from `digits` digits on. The first argument bounds the number of grids. -/
def shortestFrom (x : Finite) (num den : Nat) (leading : Int) : Nat → Nat → Nat × Int
  | 0, _ => (0, 0)
  | fuel + 1, digits =>
    let unit := leading - digits + 1
    match onGrid? x num den unit with
    | some n => (n, unit)
    | none => shortestFrom x num den leading fuel (digits + 1)

/-- **The shortest decimal** that rounds to a double, as digits and the exponent of the last of
them. No double needs more than the digits of its exact value. -/
def shortest (x : Finite) : Nat × Int :=
  if x.mantissa = 0 then (0, 0)
  else
    let (num, den) := x.ratio
    shortestFrom x num den (ratioLog10 num den) 1100 1

end RuleFlow.Number.Binary64.Finite
