/-!
# Powers, digits and rounded quotients

What both number formats are built on: the powers of ten and of two that are their units, how many
decimal digits a number has, and which whole number a quotient is rounded to.

* `RuleFlow.Number.tenPow` and `RuleFlow.Number.twoPow`: the powers.
* `RuleFlow.Number.digitCount`: the number of decimal digits; zero has one.
* `RuleFlow.Number.Rounding.quotient`: a quotient, rounded under one of five rules.
* `RuleFlow.Number.digitChars`: the decimal digits themselves.
-/

namespace RuleFlow.Number

/-! ### Powers -/

/-- **A power of ten.** -/
abbrev tenPow (n : Nat) : Nat :=
  Nat.pow 10 n

/-- **A power of two.** -/
abbrev twoPow (n : Nat) : Nat :=
  Nat.pow 2 n

/-! ### Decimal digits -/

/-- The loop below `digitCount`; its first argument bounds the number of digits left. -/
def digitCountFrom : Nat → Nat → Nat
  | 0, _ => 1
  | fuel + 1, n => if n < 10 then 1 else digitCountFrom fuel (n / 10) + 1

/-- **The number of decimal digits** of a number. A number has no more decimal digits than
binary ones, which bounds the loop. -/
def digitCount (n : Nat) : Nat :=
  digitCountFrom (n.log2 + 1) n

/-- The decimal digits of a number, the most significant first. -/
def digitChars (n : Nat) : List Char :=
  Nat.toDigits 10 n

/-- The decimal digits of a number, with zeros in front up to a width. -/
def paddedDigits (width n : Nat) : List Char :=
  let ds := digitChars n
  List.replicate (width - ds.length) '0' ++ ds

/-! ### Rounding -/

/-- The rules for choosing a whole number beside a quotient that is none. -/
inductive Rounding where
  /-- To the nearest, a tie to the even neighbour. -/
  | halfEven
  /-- To the nearest, a tie away from zero. -/
  | halfUp
  /-- Toward zero. -/
  | down
  /-- Toward negative infinity. -/
  | floor
  /-- Toward positive infinity. -/
  | ceiling
deriving DecidableEq, Repr

namespace Rounding

/-- Whether a rule moves the magnitude `whole`, with `rest / den` beyond it, away from zero. -/
def movesAway (rule : Rounding) (negative : Bool) (whole rest den : Nat) : Bool :=
  match rule with
  | .halfEven => decide (den < 2 * rest) || (2 * rest == den && whole % 2 == 1)
  | .halfUp => decide (den ≤ 2 * rest)
  | .down => false
  | .floor => negative && rest != 0
  | .ceiling => !negative && rest != 0

/-- **A rounded quotient**: the magnitude to which a rule rounds `num / den`, given the sign of
the number. -/
def quotient (rule : Rounding) (negative : Bool) (num den : Nat) : Nat :=
  if movesAway rule negative (num / den) (num % den) den then num / den + 1 else num / den

/-- A quotient without a rest is its own rounding. -/
theorem quotient_mul_right (rule : Rounding) (negative : Bool) (n : Nat) {den : Nat}
    (h : 0 < den) : rule.quotient negative (n * den) den = n := by
  have hdiv : n * den / den = n := Nat.mul_div_cancel _ h
  have hmod : n * den % den = 0 := Nat.mul_mod_left _ _
  cases rule <;> simp [quotient, movesAway, hdiv, hmod] <;> omega

end Rounding

end RuleFlow.Number
