import RuleFlow.Number.Decimal.Basic

/-!
# Arithmetic of bounded precision

The result of an operation is its exact value, brought to the precision and the exponent range of
a *context*. What cannot be brought there is signalled.

* `RuleFlow.Number.Decimal.Context` holds the bounds; `RuleFlow.Number.Decimal.standard` is the
  context of every built-in.
* `RuleFlow.Number.Decimal.Context.fit` rounds an exact value into a context.
* `RuleFlow.Number.Decimal.Context.add`, `mul`, `div`, `rem`, `abs`, `quantize`: the operations.
* `RuleFlow.Number.Decimal.roundToWhole` keeps every digit before the point, whatever the
  context.
-/

namespace RuleFlow.Number.Decimal

/-- What an operation signals in place of a result. -/
inductive Signal where
  /-- The operation has no result for its operands. -/
  | invalidOperation
  /-- Zero divided by zero. -/
  | divisionUndefined
  /-- A remainder whose whole quotient exceeds the precision. -/
  | divisionImpossible
  /-- Another number divided by zero. -/
  | divisionByZero
  /-- A result beyond the exponent range. -/
  | overflow
deriving DecidableEq, Repr

/-- The bounds within which results are kept. -/
structure Context where
  /-- The number of digits of a coefficient. -/
  precision : Nat
  /-- The largest exponent of a leading digit. -/
  maxExponent : Int
  /-- The least exponent of the leading digit of a number that keeps full precision. -/
  minExponent : Int
deriving DecidableEq, Repr

/-- **The context of the built-ins**: twenty-eight digits, and exponents of up to six nines. -/
def standard : Context :=
  { precision := 28, maxExponent := 999999, minExponent := -999999 }

namespace Context

variable (ctx : Context)

/-- The least exponent of any result. -/
def tiny : Int :=
  ctx.minExponent - ctx.precision + 1

/-- A coefficient with the last `places` digits rounded off, a tie to even. A coefficient much
shorter than that leaves nothing. -/
def dropDigits (negative : Bool) (coefficient places : Nat) : Nat :=
  if digitCount coefficient < places then 0
  else Rounding.halfEven.quotient negative coefficient (tenPow places)

/-- **Fitting an exact value into a context.** Digits beyond the precision, or below the least
exponent, are rounded off once; a leading digit beyond the largest exponent is an overflow. -/
def fit (negative : Bool) (coefficient : Nat) (exponent : Int) : Except Signal Decimal :=
  if coefficient = 0 then
    .ok (.finite negative 0 (max ctx.tiny (min exponent ctx.maxExponent)))
  else
    let target := max ctx.tiny (exponent + digitCount coefficient - ctx.precision)
    let (c, e) :=
      if exponent < target then
        let c := dropDigits negative coefficient (target - exponent).toNat
        -- rounding may carry into one digit more than the precision
        if ctx.precision < digitCount c then (c / 10, target + 1) else (c, target)
      else (coefficient, exponent)
    if c = 0 then .ok (.finite negative 0 e)
    else if ctx.maxExponent < adjusted c e then .error .overflow
    else .ok (.finite negative c e)

/-- A stand-in for a magnitude too small to share a digit with the result: it only has to keep
a tie from looking exact. -/
def sticky (bigC : Nat) (bigE : Int) (smallC : Nat) (smallE : Int) : Nat × Int :=
  let gap : Int :=
    if digitCount bigC > ctx.precision then 0 else (digitCount bigC : Int) - ctx.precision - 1
  let unit := bigE - 1 + gap
  if smallC ≠ 0 ∧ adjusted smallC smallE < unit then (1, unit) else (smallC, smallE)

/-- The sum of two finite decimals once neither is negligible. -/
def addAligned (n₁ : Bool) (c₁ : Nat) (e₁ : Int) (n₂ : Bool) (c₂ : Nat) (e₂ : Int) :
    Except Signal Decimal :=
  let unit := min e₁ e₂
  let sum := signedAt n₁ c₁ e₁ unit + signedAt n₂ c₂ e₂ unit
  -- an exact zero is negative only as the sum of two negatives
  let negative := if sum = 0 then n₁ && n₂ else decide (sum < 0)
  ctx.fit negative sum.natAbs unit

/-- The sum of two finite decimals. -/
def addFinite (n₁ : Bool) (c₁ : Nat) (e₁ : Int) (n₂ : Bool) (c₂ : Nat) (e₂ : Int) :
    Except Signal Decimal :=
  if c₁ = 0 then
    -- a zero contributes its exponent, as far as the precision reaches
    if c₂ = 0 then ctx.addAligned n₁ 0 e₁ n₂ 0 e₂
    else
      let unit := max (min e₁ e₂) (e₂ + digitCount c₂ - ctx.precision)
      let unit := min e₂ unit
      ctx.fit n₂ (scaled c₂ e₂ unit) unit
  else if c₂ = 0 then
    let unit := max (min e₁ e₂) (e₁ + digitCount c₁ - ctx.precision)
    let unit := min e₁ unit
    ctx.fit n₁ (scaled c₁ e₁ unit) unit
  else if e₂ ≤ e₁ then
    let (c₂, e₂) := ctx.sticky c₁ e₁ c₂ e₂
    ctx.addAligned n₁ c₁ e₁ n₂ c₂ e₂
  else
    let (c₁, e₁) := ctx.sticky c₂ e₂ c₁ e₁
    ctx.addAligned n₁ c₁ e₁ n₂ c₂ e₂

/-- **The sum of two decimals.** -/
def add : Decimal → Decimal → Except Signal Decimal
  | .finite n₁ c₁ e₁, .finite n₂ c₂ e₂ => ctx.addFinite n₁ c₁ e₁ n₂ c₂ e₂
  | .infinite n₁, .infinite n₂ =>
    if n₁ = n₂ then .ok (.infinite n₁) else .error .invalidOperation
  | .nan n s p, other =>
    if s || other.isSignaling then .error .invalidOperation else .ok (.nan n false p)
  | _, .nan n s p => if s then .error .invalidOperation else .ok (.nan n false p)
  | .infinite n, _ => .ok (.infinite n)
  | _, .infinite n => .ok (.infinite n)

/-! ### Multiplication, division and remainder of numbers -/

/-- **The product of two numbers.** -/
def mul : Decimal → Decimal → Except Signal Decimal
  | .finite n₁ c₁ e₁, .finite n₂ c₂ e₂ => ctx.fit (n₁ != n₂) (c₁ * c₂) (e₁ + e₂)
  | _, _ => .error .invalidOperation

/-- A coefficient without trailing zeros, as long as the exponent stays below `ideal`. The first
argument bounds the number of zeros. -/
def stripZeros (ideal : Int) : Nat → Nat → Int → Nat × Int
  | 0, c, e => (c, e)
  | fuel + 1, c, e =>
    if e < ideal ∧ c % 10 = 0 then stripZeros ideal fuel (c / 10) (e + 1) else (c, e)

/-- The quotient of two numbers, the divisor not zero. An exact quotient has the exponent nearest
to the difference of the exponents; any other has one digit more than the precision, which is
never a five or a zero, so that rounding it is rounding the quotient. -/
def divNonzero (negative : Bool) (c₁ : Nat) (e₁ : Int) (c₂ : Nat) (e₂ : Int) :
    Except Signal Decimal :=
  if c₁ = 0 then ctx.fit negative 0 (e₁ - e₂)
  else
    let shift : Int := (digitCount c₂ : Int) - digitCount c₁ + ctx.precision + 1
    let exponent := e₁ - e₂ - shift
    let num := if 0 ≤ shift then c₁ * tenPow shift.toNat else c₁
    let den := if 0 ≤ shift then c₂ else c₂ * tenPow (-shift).toNat
    let whole := num / den
    if num % den = 0 then
      let (c, e) := stripZeros (e₁ - e₂) (digitCount whole) whole exponent
      ctx.fit negative c e
    else ctx.fit negative (if whole % 5 = 0 then whole + 1 else whole) exponent

/-- **The quotient of two numbers.** -/
def div : Decimal → Decimal → Except Signal Decimal
  | .finite n₁ c₁ e₁, .finite n₂ c₂ e₂ =>
    if c₂ = 0 then .error (if c₁ = 0 then .divisionUndefined else .divisionByZero)
    else ctx.divNonzero (n₁ != n₂) c₁ e₁ c₂ e₂
  | _, _ => .error .invalidOperation

/-- **The remainder of two numbers**, with the sign of the dividend. The whole quotient has to fit
the precision. -/
def rem : Decimal → Decimal → Except Signal Decimal
  | .finite n₁ c₁ e₁, .finite _ c₂ e₂ =>
    if c₂ = 0 then .error (if c₁ = 0 then .divisionUndefined else .invalidOperation)
    else if c₁ = 0 then ctx.fit n₁ 0 (min e₁ e₂)
    else if (ctx.precision : Int) < adjusted c₁ e₁ - adjusted c₂ e₂ then
      .error .divisionImpossible
    else if adjusted c₁ e₁ < adjusted c₂ e₂ ∧ e₁ ≤ e₂ then ctx.fit n₁ c₁ e₁
    else
      let unit := min e₁ e₂
      let num := scaled c₁ e₁ unit
      let den := scaled c₂ e₂ unit
      if tenPow ctx.precision ≤ num / den then .error .divisionImpossible
      else ctx.fit n₁ (num % den) unit
  | _, _ => .error .invalidOperation

/-- **The magnitude of a number.** -/
def abs (d : Decimal) : Except Signal Decimal :=
  match d with
  | .finite _ c e => ctx.fit false c e
  | _ => .error .invalidOperation

/-! ### Choosing the exponent -/

/-- **A number with a chosen exponent**, rounded with ties away from zero. Its coefficient has to
fit the precision. -/
def quantize (d : Decimal) (exponent : Int) : Except Signal Decimal :=
  match d with
  | .finite n c e =>
    if exponent < ctx.tiny ∨ ctx.maxExponent < exponent then .error .invalidOperation
    else if c = 0 then .ok (.finite n 0 exponent)
    else if (ctx.precision : Int) < adjusted c e - exponent + 1 then .error .invalidOperation
    else
      let c :=
        if exponent ≤ e then scaled c e exponent
        else if (digitCount c : Int) < exponent - e then 0
        else Rounding.halfUp.quotient n c (tenPow (exponent - e).toNat)
      if ctx.precision < digitCount c ∨ (c ≠ 0 ∧ ctx.maxExponent < adjusted c exponent) then
        .error .invalidOperation
      else .ok (.finite n c exponent)
  | _ => .error .invalidOperation

end Context

/-- **A number rounded to a whole number**, digits before the point untouched. A number whose
exponent is not negative is whole already and is returned as it is. -/
def roundToWhole (rule : Rounding) : Decimal → Decimal
  | .finite n c e =>
    if 0 ≤ e then .finite n c e
    else if c = 0 then .finite n 0 0
    else if (digitCount c : Int) + e < 0 then
      .finite n (if rule.movesAway n 0 1 3 then 1 else 0) 0
    else .finite n (rule.quotient n c (tenPow (-e).toNat)) 0
  | other => other

end RuleFlow.Number.Decimal
