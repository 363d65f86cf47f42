import RuleFlow.Proofs.Builtin.Results
import RuleFlow.Proofs.Rule.Types

/-!
# The types of values in a run

A compiled rule knows a type for each input and for each result of a call. This file shows that the
values of a run are of these types, so that what was checked of types holds in every run.

## The invariant

Every name that has a value has a type, and the value is of it (`RuleFlow.CompiledRule.Typed`).
There is one exception: no date stands for a date that is left out, so an optional input that is one
and has no default may be nothing.

* `RuleFlow.Seed.exists_of_context` tells where the values at the start come from, and
  `RuleFlow.InputDecl.ofType_of_seed` which they are.
* `RuleFlow.CompiledRule.perform_eq_onward` is what a step adds: nothing, or what a function has
  returned.
* `RuleFlow.Rule.Compilation.typed_perform` is what one step preserves, and
  `RuleFlow.Rule.reached_typed` the result: the invariant holds wherever a run comes.
-/

namespace RuleFlow

/-! ### The start of a run -/

/-- **An optional input without a default is left out**: what is given for it is absent. -/
structure InputDecl.LeftOut (d : InputDecl) (inputs : Value) : Prop where
  /-- The input need not be given. -/
  optional : d.mandatory = false
  /-- No value stands in for it. -/
  noDefault : d.default.isNull = true
  /-- Nothing, or an empty text, is given. -/
  absent : ∃ given, Seed.given inputs d.name = .ok given ∧ given.isAbsent = true

/-- What is not absent is not nothing. -/
theorem Value.not_isNull_of_not_isAbsent {v : Value} (h : ¬v.isAbsent = true) :
    ¬v.isNull = true := by
  cases v with
  | null => exact absurd rfl h
  | _ => exact nofun

/-- Nothing stands only for dates that are left out, and for what may be of any type. -/
theorem DataType.isNull_empty_iff (t : DataType) :
    t.empty.isNull = true ↔ t = .date ∨ t = .any := by
  cases t <;> simp [empty, Value.isNull]

namespace Seed

variable {s : Seed} {seeds : List Seed} {inputs v : Value} {values : Keyed Value} {name : String}

/-- **The value of an input** is converted from what is given, or from what stands in for it if the
input may be left out. -/
theorem value_eq_ok {given : Value} (h : s.value given = .ok v) :
    (given.isAbsent = true → s.mandatory = false) ∧
      s.type.coerce (if given.isAbsent then s.fallback else given) = .ok v := by
  rw [value] at h
  by_cases hmissing : (given.isAbsent && s.mandatory) = true
  · cases (if_pos hmissing).symm.trans h
  rw [if_neg hmissing] at h
  refine ⟨fun habsent => by simpa [habsent] using hmissing, ?_⟩
  split at h
  next w hw =>
    obtain rfl := Except.ok.inj h
    exact hw
  next => split_ifs at h

/-- **An invariant of seeding**: what each value that is set preserves holds of all of them. -/
theorem inv_of_context (inv : List Seed → Keyed Value → Prop) (start : inv [] [])
    (step : ∀ before s after values given v, seeds = before ++ s :: after → inv before values →
      Seed.given inputs s.name = .ok given → s.value given = .ok v →
      inv (before ++ [s]) (values.set s.name v))
    (h : context seeds inputs = .ok values) : inv seeds values := by
  refine (ends_foldlM _ inv (fun _ => True) start ?_).of_ok h
  intro before s after values hsplit hbefore
  refine .of_forall_ok fun values' hstep => ?_
  obtain ⟨given, hgiven, hstep⟩ := bind_eq_ok.mp hstep
  obtain ⟨v, hvalue, hstep⟩ := bind_eq_ok.mp hstep
  obtain rfl := Except.ok.inj hstep
  exact step before s after values given v hsplit hbefore hgiven hvalue

/-- **Values at the start** are those of declared inputs. -/
theorem exists_of_context (h : context seeds inputs = .ok values)
    (hv : values.find? name = some v) : ∃ s ∈ seeds, s.name = name ∧
      ∃ given, Seed.given inputs s.name = .ok given ∧ s.value given = .ok v := by
  refine inv_of_context (fun (done : List Seed) (values : Keyed Value) => ∀ name v,
    values.find? name = some v → ∃ s ∈ done, s.name = name ∧
      ∃ given, Seed.given inputs s.name = .ok given ∧ s.value given = .ok v)
    (by simp [Keyed.find?]) ?_ h name v hv
  intro done s rest values given w _ hdone hgiven hvalue name v hv
  rcases Keyed.find?_set_eq_some hv with ⟨rfl, rfl⟩ | ⟨-, hbefore⟩
  · exact ⟨s, by simp, rfl, given, hgiven, hvalue⟩
  · obtain ⟨t, ht, hfound⟩ := hdone name v hbefore
    exact ⟨t, List.mem_append_left _ ht, hfound⟩

end Seed

/-- **The value of an input** is of its type, unless it is a date that is left out. -/
theorem InputDecl.ofType_of_seed {d : InputDecl} {inputs given v : Value}
    (hgiven : Seed.given inputs d.name = .ok given) (h : d.seed.value given = .ok v) :
    v.OfType d.type ∨ d.type = .date ∧ v = .null ∧ d.LeftOut inputs := by
  obtain ⟨hoptional, hcoerce⟩ := Seed.value_eq_ok h
  -- Only what stands in for an input that is left out may be nothing: everything else that is
  -- converted is not.
  by_cases habsent : given.isAbsent = true
  · rw [if_pos habsent] at hcoerce
    change (if d.default.isNull then d.type.empty else d.default).coerce d.type = .ok v at hcoerce
    by_cases hdefault : d.default.isNull = true
    · rw [if_pos hdefault] at hcoerce
      by_cases hempty : d.type.empty.isNull = true
      · rcases d.type.isNull_empty_iff.mp hempty with hdate | hany
        · refine .inr ⟨hdate, ?_, hoptional habsent, hdefault, given, hgiven, habsent⟩
          rw [hdate] at hcoerce
          exact (Except.ok.inj hcoerce).symm
        · exact .inl (by rw [hany]; trivial)
      · exact .inl (Value.ofType_of_coerce hempty hcoerce)
    · rw [if_neg hdefault] at hcoerce
      exact .inl (Value.ofType_of_coerce hdefault hcoerce)
  · rw [if_neg habsent] at hcoerce
    exact .inl (Value.ofType_of_coerce (Value.not_isNull_of_not_isAbsent habsent) hcoerce)

namespace CompiledRule

variable {c : CompiledRule} {context context' : Context} {s : Step} {target : Option String}

/-! ### The invariant -/

/-- **The value of a name is of a type**, or it is nothing in the place of a date that is left out
of the inputs. -/
def Fits (c : CompiledRule) (inputs : Value) (name : String) (v : Value) (type : DataType) : Prop :=
  v.OfType type ∨
    type = .date ∧ v = .null ∧ ∃ d ∈ c.rule.inputs, d.name = name ∧ d.LeftOut inputs

/-- **A context is typed**: every name that has a value has a type that the value fits. -/
def Typed (c : CompiledRule) (inputs : Value) (context : Context) : Prop :=
  ∀ name v, context.values.find? name = some v →
    ∃ type, c.types.find? name = some type ∧ c.Fits inputs name v type

/-- A name gets a value of its type. -/
theorem Typed.bind {inputs v : Value} {name : String} {type : DataType}
    (h : c.Typed inputs context) (htype : c.types.find? name = some type) (hv : v.OfType type) :
    c.Typed inputs (context.bind name v) := by
  intro other w hw
  rcases Keyed.find?_set_eq_some hw with ⟨rfl, rfl⟩ | ⟨-, hbefore⟩
  · exact ⟨type, htype, .inl hv⟩
  · exact h other w hbefore

/-- **What a step adds** to the values: nothing, or at a call what its function has returned. -/
theorem perform_eq_onward (h : c.perform context s = .ok (.onward context' target)) :
    context' = context ∨ ∃ name call args v, s.result? = some name ∧
      c.calls.find? s.id = some call ∧ call.function.builtin.invoke args = .success v ∧
      context' = context.bind name v := by
  cases haction : s.action with
  | call name function arguments next =>
    simp only [perform, haction] at h
    split at h
    next => cases h
    next call hcall =>
      obtain ⟨args, -, h⟩ := bind_eq_ok.mp h
      split at h
      next v hv =>
        injection Except.ok.inj h with hcontext _
        exact .inr ⟨name, call, args, v, by simp [Step.result?, haction], hcall, hv,
          hcontext.symm⟩
      next => cases h
  | branch conditions onTrue onFalse =>
    simp only [perform, haction] at h
    obtain ⟨matched, -, h⟩ := bind_eq_ok.mp h
    injection Except.ok.inj h with hcontext _
    exact .inl hcontext.symm
  | output report =>
    simp only [perform, haction] at h
    obtain ⟨outcome, -, h⟩ := map_eq_ok.mp h
    cases h

end CompiledRule

namespace Rule

variable {r : Rule} {a : Analysis} {c : CompiledRule} {inputs : Value} {start context : Context}
  {s : Step} {target : Option String}

/-! ### Whole runs -/

/-- **A run starts** with typed values. -/
theorem Compilation.typed_start (h : r.Compilation Catalogue.standard a c)
    (hstart : Context.seed r.inputs inputs = .ok start) : c.Typed inputs start := by
  obtain ⟨values, hvalues, rfl⟩ := map_eq_ok.mp hstart
  intro name v hv
  obtain ⟨s, hs, rfl, given, hgiven, hvalue⟩ := Seed.exists_of_context hvalues hv
  obtain ⟨d, hd, rfl⟩ := List.mem_map.mp hs
  refine ⟨d.type, h.learned.inputs d hd, ?_⟩
  rcases InputDecl.ofType_of_seed hgiven hvalue with hof | ⟨htype, hnull, hleft⟩
  · exact .inl hof
  · exact .inr ⟨htype, hnull, d, h.rule ▸ hd, rfl, hleft⟩

/-- **What one step preserves.** A call of the catalogue returns a value of the type that binding
has given to its result. -/
theorem Compilation.typed_perform (h : r.Compilation Catalogue.standard a c) (hs : s ∈ r.steps)
    (htyped : c.Typed inputs context) {context' : Context}
    (hperform : c.perform context s = .ok (.onward context' target)) : c.Typed inputs context' := by
  rcases CompiledRule.perform_eq_onward hperform with
    rfl | ⟨name, call, args, v, hname, hcall, hinvoke, rfl⟩
  · exact htyped
  · obtain ⟨call', hcall', hmem, htype, -⟩ := h.learned.results s hs name hname
    obtain rfl : call = call' := Option.some.inj (hcall.symm.trans hcall')
    exact htyped.bind htype (Catalogue.ofType_of_invoke hmem hinvoke)

/-- Wherever a run comes, its values are typed. -/
theorem Compilation.typed_of_reaches (h : r.Compilation Catalogue.standard a c)
    (hstart : Context.seed r.inputs inputs = .ok start)
    (hreaches : c.Reaches start (some c.entry) context target) : c.Typed inputs context := by
  induction hreaches with
  | start => exact h.typed_start hstart
  | onward _ hs hperform ih =>
    have hmem := (mem_of_step? hs).1
    rw [h.rule] at hmem
    exact h.typed_perform hmem ih hperform

/-- Wherever a run comes, every input has a value, which fits its declared type. -/
theorem Compilation.fits_of_reaches (h : r.Compilation Catalogue.standard a c)
    (haccepted : c.Accepted) (hstart : Context.seed r.inputs inputs = .ok start)
    (hreaches : c.Reaches start (some c.entry) context target) {d : InputDecl}
    (hd : d ∈ r.inputs) :
    ∃ v, context.values.find? d.name = some v ∧ c.Fits inputs d.name v d.type := by
  have hseed : Context.seed c.rule.inputs inputs = .ok start := h.rule ▸ hstart
  have hproceeds := hreaches.proceeds haccepted
    ⟨c.entry, haccepted.entry, rfl, (CompiledRule.ends_seed inputs).of_ok hseed⟩
  obtain ⟨id, -, -, harrives⟩ := hproceeds
  have hname : d.name ∈ c.rule.inputNames := h.rule ▸ List.mem_map_of_mem hd
  obtain ⟨v, hv⟩ := harrives.inputs d.name hname
  obtain ⟨type, htype, hfits⟩ := h.typed_of_reaches hstart hreaches d.name v hv
  obtain rfl := Option.some.inj ((h.learned.inputs d hd).symm.trans htype)
  exact ⟨v, hv, hfits⟩

/-- **Runs preserve types.** Whatever the inputs, wherever a run of a rule that was compiled against
the standard catalogue comes to, each name that has a value has a type in the compiled rule, and its
value is of that type: a text, a decimal, a truth value, a date or moment, or whatever it may be
where the type is `any`. The only exception is nothing, for a date that is an optional input without
a default and was left out. Among the names with a value are all inputs, each with the type that is
declared. -/
theorem reached_typed (h : r.compile Catalogue.standard = .ok c) (inputs : Value)
    (hstart : Context.seed r.inputs (inputs.orElse (.record [])) = .ok start)
    (hreaches : c.Reaches start (some c.entry) context target) :
    c.Typed (inputs.orElse (.record [])) context ∧
      ∀ d ∈ r.inputs, ∃ v, context.values.find? d.name = some v ∧
        c.Fits (inputs.orElse (.record [])) d.name v d.type := by
  obtain ⟨a, hcompilation⟩ := exists_compilation h
  obtain ⟨-, haccepted⟩ := accepted_of_compile Catalogue.defaultsRead h
  exact ⟨hcompilation.typed_of_reaches hstart hreaches, fun d hd =>
    hcompilation.fits_of_reaches haccepted hstart hreaches hd⟩

end Rule

/-- The context of `excerpt` at its start, given a count of three. -/
def excerptStart : Context :=
  { inputs := excerpt.inputs, values := [("count", .decimal (.ofInt 3))] }

theorem excerpt_reached_typed :
    excerpt.compile Catalogue.standard = .ok excerptCompiled ∧
      Context.seed excerpt.inputs (.record [("count", .int 3)]) = .ok excerptStart ∧
      excerptCompiled.Reaches excerptStart (some "cut")
        (excerptStart.bind "start" (.text "abc")) (some "tell") ∧
      excerptCompiled.Typed (.record [("count", .int 3)])
        (excerptStart.bind "start" (.text "abc")) ∧
      ∀ d ∈ excerpt.inputs, ∃ v,
        (excerptStart.bind "start" (.text "abc")).values.find? d.name = some v ∧
          excerptCompiled.Fits (.record [("count", .int 3)]) d.name v d.type := by
  have hstart : Context.seed excerpt.inputs (.record [("count", .int 3)]) = .ok excerptStart := rfl
  have hreaches : excerptCompiled.Reaches excerptStart (some "cut")
      (excerptStart.bind "start" (.text "abc")) (some "tell") := .onward .start rfl rfl
  exact ⟨excerpt_compile, hstart, hreaches,
    Rule.reached_typed excerpt_compile (.record [("count", .int 3)]) hstart hreaches⟩

end RuleFlow
