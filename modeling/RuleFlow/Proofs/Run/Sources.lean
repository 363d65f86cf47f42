import Mathlib.Data.List.Basic
import RuleFlow.Proofs.Value.Conversion
import RuleFlow.Rule.Compiled

/-!
# Sources that have a value

A source has a value in a context where each of its literals is one of its type and each name that
it refers to has a value.

* `RuleFlow.Context.Knows` and `RuleFlow.Context.Supplies`: a name, and all names inside a source,
  have a value.
* `RuleFlow.Context.exists_resolve`: a source that is supplied, and whose literals are read, has a
  value.
* `RuleFlow.Catalogue.exists_literal_default`: the defaults of the standard catalogue are read, too.
-/

namespace RuleFlow

/-- The name that a reference is to. -/
def Reference.name : Reference → String
  | .input name | .variable name => name

namespace Source

variable {source : Source} {sources : List Source}

theorem checkAllLiterals_cons :
    checkAllLiterals (source :: sources) = .ok () ↔
      source.checkLiterals = .ok () ∧ checkAllLiterals sources = .ok () := by
  rw [checkAllLiterals]
  cases source.checkLiterals with
  | ok _ => simp
  | error e => simp

theorem checkAllLiterals_iff :
    checkAllLiterals sources = .ok () ↔ ∀ source ∈ sources, source.checkLiterals = .ok () := by
  induction sources with
  | nil => simp [checkAllLiterals]
  | cons source sources ih => rw [checkAllLiterals_cons, ih, List.forall_mem_cons]

end Source

namespace Context

variable {context : Context} {name other : String}

/-! ### Names and sources -/

/-- **A name has a value** in a context. -/
def Knows (context : Context) (name : String) : Prop :=
  ∃ v, context.values.find? name = some v

/-- A name that gets a value has one, and no other name loses its own. -/
theorem Knows.bind (v : Value) (h : other ≠ name → context.Knows other) :
    (context.bind name v).Knows other := by
  by_cases hother : other = name
  · subst hother
    exact ⟨v, Keyed.find?_set_self ..⟩
  · obtain ⟨w, hw⟩ := h hother
    exact ⟨w, (Keyed.find?_set_of_ne _ v hother).trans hw⟩

/-- **A source is supplied**: every name inside it has a value. -/
def Supplies (context : Context) (source : Source) : Prop :=
  ∀ reference ∈ source.references, context.Knows reference.name

theorem supplies_array_iff {items : List Source} :
    context.Supplies (.array items) ↔ ∀ item ∈ items, context.Supplies item := by
  simp only [Supplies, Source.references]
  induction items with
  | nil => simp [Source.referencesOfAll]
  | cons item items ih =>
    rw [List.forall_mem_cons, ← ih]
    simp only [Source.referencesOfAll, List.mem_append]
    exact ⟨fun h => ⟨fun x hx => h x (.inl hx), fun x hx => h x (.inr hx)⟩,
      fun h x hx => hx.elim (h.1 x) (h.2 x)⟩

/-! ### Values -/

mutual

/-- **A supplied source has a value**, if its literals are read. -/
theorem exists_resolve : ∀ source : Source, source.checkLiterals = .ok () →
    context.Supplies source → ∃ v, context.resolve source = .ok v
  | .literal v type, hliterals, _ => by
    rw [Source.checkLiterals] at hliterals
    obtain ⟨w, hw, -⟩ := map_eq_ok.mp hliterals
    exact ⟨w, by rw [resolve, hw]; rfl⟩
  | .input name, _, hsupplies => by
    obtain ⟨v, hv⟩ := hsupplies (.input name) (by simp [Source.references])
    exact ⟨v, by rw [resolve, input]; simp only [Reference.name] at hv; rw [hv]⟩
  | .variable name, _, hsupplies => by
    obtain ⟨v, hv⟩ := hsupplies (.variable name) (by simp [Source.references])
    exact ⟨v, by rw [resolve, result]; simp only [Reference.name] at hv; rw [hv]⟩
  | .array items, hliterals, hsupplies => by
    rw [Source.checkLiterals] at hliterals
    obtain ⟨vs, hvs⟩ := exists_resolveAll items (Source.checkAllLiterals_iff.mp hliterals)
      (supplies_array_iff.mp hsupplies)
    exact ⟨.list vs, by rw [resolve, hvs]; rfl⟩

theorem exists_resolveAll : ∀ sources : List Source,
    (∀ source ∈ sources, source.checkLiterals = .ok ()) →
      (∀ source ∈ sources, context.Supplies source) → ∃ vs, context.resolveAll sources = .ok vs
  | [], _, _ => ⟨[], rfl⟩
  | source :: rest, hliterals, hsupplies => by
    obtain ⟨hfirst, hrest⟩ := List.forall_mem_cons.mp hliterals
    obtain ⟨hsource, hsources⟩ := List.forall_mem_cons.mp hsupplies
    obtain ⟨v, hv⟩ := exists_resolve source hfirst hsource
    obtain ⟨vs, hvs⟩ := exists_resolveAll rest hrest hsources
    exact ⟨v :: vs, by rw [resolveAll, hv, hvs]; rfl⟩

end

end Context

/-! ### Literals and defaults -/

namespace Value

variable {v w : Value} {t : DataType}

/-- **A converted value is converted to itself.** -/
theorem coerce_of_coerce (h : v.coerce t = .ok w) : w.coerce t = .ok w := by
  rw [coerce.eq_def] at h
  by_cases hnull : v.isNull = true
  · rw [if_pos hnull] at h
    obtain rfl := Except.ok.inj h
    rw [coerce.eq_def, if_pos hnull]
  rw [if_neg hnull] at h
  cases t with
  | any =>
    obtain rfl := Except.ok.inj h
    rw [coerce.eq_def, if_neg hnull]
  | string =>
    dsimp only at h
    split_ifs at h with htext
    obtain rfl := Except.ok.inj h
    rw [coerce.eq_def, if_neg hnull]
    exact if_pos htext
  | number =>
    obtain ⟨d, hd, rfl⟩ := map_eq_ok.mp h
    have hself : (decimal d).toNumber = .ok d := if_pos (v.ends_toNumber.of_ok hd)
    exact map_eq_ok.mpr ⟨d, hself, rfl⟩
  | boolean =>
    obtain ⟨b, -, rfl⟩ := map_eq_ok.mp h
    rfl
  | date =>
    obtain ⟨d, -, rfl⟩ := map_eq_ok.mp h
    rfl

/-- A value that was converted to a type with values of its own is a literal of that type. -/
theorem literal_of_coerce (ht : t ≠ .any) (h : v.coerce t = .ok w) : w.literal t = .ok w := by
  have hliteral : w.ofLiteral t = w.coerce t := by
    cases t with
    | any => exact absurd rfl ht
    | _ => rfl
  rw [literal, hliteral, coerce_of_coerce h]

end Value

/-- What stands for an input of a type that is left out is a literal of that type. -/
theorem DataType.exists_literal_empty (t : DataType) : ∃ w, t.empty.literal t = .ok w := by
  cases t with
  | _ => exact ⟨_, rfl⟩

/-- **The default of a parameter is a literal of its type**, unless it is a value of no type. -/
theorem Parameter.exists_literal_default {p : Parameter} {v : Value}
    (hp : p.default.isNull = true ∨ p.type ≠ .any) (h : p.defaultValue = .ok v) :
    ∃ w, v.literal p.type = .ok w := by
  rw [defaultValue] at h
  split_ifs at h with hnull
  · exact Except.ok.inj h ▸ p.type.exists_literal_empty
  · exact ⟨v, Value.literal_of_coerce (hp.resolve_left hnull) h⟩

/-- **The defaults of the standard catalogue** are literals of the types of their parameters. -/
theorem Catalogue.exists_literal_default {f : Entry} (hf : f ∈ standard.entries) {p : Parameter}
    (hp : p ∈ f.parameters) {v : Value} (h : p.defaultValue = .ok v) :
    ∃ w, v.literal p.type = .ok w := by
  have hall : standard.entries.all (fun f =>
      f.parameters.all fun p => p.default.isNull || p.type != .any) = true := by
    rfl
  have hone := List.all_eq_true.mp (List.all_eq_true.mp hall f hf) p hp
  exact Parameter.exists_literal_default (by simpa using hone) h

end RuleFlow
