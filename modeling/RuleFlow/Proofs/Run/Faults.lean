import RuleFlow.Proofs.Value.Comparison
import RuleFlow.Run.Context

/-!
# What a run may run into

A run of a rule converts and compares values, and both may fail on values that nobody has checked
before. This file bounds how: such a failure is a refusal that the caller is told about, or a fault
of the values themselves. It is never a failed lookup, and never an inconsistency of the rule.

* `RuleFlow.Fault.Plain` and `RuleFlow.Trouble.Ordinary` are the failures that values may cause.
* `RuleFlow.Value.ends_compare` bounds the failures of comparisons.
* `RuleFlow.Seed.ends_context` bounds those of seeding; what it gives has a value for each input.
-/

namespace RuleFlow

/-- **A fault of values**: any fault but a failed lookup of a name. -/
def Fault.Plain : Fault → Prop
  | .noKey _ | .unbound _ => False
  | _ => True

/-- **Trouble that values may cause**: a refusal, or a fault of values. -/
def Trouble.Ordinary : Trouble → Prop
  | .refused .. => True
  | .fault f => f.Plain
  | .internal _ | .stepLimit _ => False

/-- The ordinary faults of values are faults of values. -/
theorem Fault.plain_of_isValueFault {f : Fault} (h : f.isValueFault = true) : f.Plain := by
  cases f with
  | noKey key => exact nomatch h
  | unbound name => exact nomatch h
  | _ => trivial

/-- **Comparisons fail on values only.** -/
theorem Value.ends_compare (op : Operator) (left : Value) (leftType : DataType) (right : Value)
    (rightType : DataType) :
    Ends (compare op left leftType right rightType) (fun _ => True) Trouble.Ordinary := by
  by_cases h : Unguarded op left leftType right rightType
  · obtain ⟨f, hf, hvalue⟩ := compare_of_unguarded h
    rw [hf]
    rcases hvalue with hvalue | rfl
    · exact Fault.plain_of_isValueFault hvalue
    · trivial
  · refine (ends_compare_of_guarded h).mono (fun _ _ => trivial) ?_
    rintro _ rfl
    trivial

/-! ### Seeding -/

namespace Seed

theorem ends_given (inputs : Value) (name : String) :
    Ends (given inputs name) (fun _ => True) Trouble.Ordinary := by
  rw [given.eq_def]
  split
  · trivial
  · trivial

theorem ends_value (s : Seed) (given : Value) :
    Ends (s.value given) (fun _ => True) Trouble.Ordinary := by
  rw [value]
  generalize (if given.isAbsent then s.fallback else given) = v
  split_ifs
  · trivial
  have hcoerce := v.ends_coerceDeclared s.type
  split
  next => trivial
  next f hf =>
    split_ifs
    · trivial
    · exact Fault.plain_of_isValueFault (hcoerce.of_error hf)

/-- **Seeding fails on values only**, and what it gives has a value for each input. -/
theorem ends_context (seeds : List Seed) (inputs : Value) :
    Ends (context seeds inputs) (fun values => ∀ s ∈ seeds, ∃ v, values.find? s.name = some v)
      Trouble.Ordinary := by
  refine ends_foldlM _ (fun (done : List Seed) (values : Keyed Value) =>
    ∀ s ∈ done, ∃ v, values.find? s.name = some v) _ (by simp) ?_
  intro done s rest values _ hdone
  refine (ends_given inputs s.name).bind fun given _ => (s.ends_value given).bind fun v _ => ?_
  refine forall_mem_snoc.mpr ⟨fun t ht => ?_, v, Keyed.find?_set_self values s.name v⟩
  by_cases hname : t.name = s.name
  · exact ⟨v, hname ▸ Keyed.find?_set_self values s.name v⟩
  · obtain ⟨w, hw⟩ := hdone t ht
    exact ⟨w, (Keyed.find?_set_of_ne values v hname).trans hw⟩

end Seed

end RuleFlow
