import RuleFlow.Proofs.Run.Assignment
import RuleFlow.Proofs.Run.Safety
import RuleFlow.Proofs.Run.Typing

/-!
# What seeding gives and refuses

Seeding goes through the declared inputs in order and stops at the first one that it refuses, be it
missing or of the wrong type. What it gives is a normal form of what was given: it is seeded again
to itself, and depends on the declared names only.

## One input after the other

Each input is seeded by itself, from what is given for its name
(`RuleFlow.Seed.context_eq_of_values`), so that everything comes down to the value of one input.

* `RuleFlow.Seed.ends_context_record` is what seeding comes to, with the first input that is
  refused.
* `RuleFlow.InputDecl.ends_value` is what one declared input comes to. The default was read when the
  rule was compiled, and is read in the same way now.
* `RuleFlow.Rule.seeded_exactly` joins the two for compiled rules.
* `RuleFlow.Seed.value_of_value` seeds a value again, and `RuleFlow.Seed.normalises` is what follows
  for seeding and for whole runs.
-/

namespace RuleFlow

/-! ### Conversions of values that are there -/

/-- What is converted from a value that is not absent is not absent. -/
theorem Value.not_isAbsent_of_coerce {v w : Value} {t : DataType} (hv : ¬v.isAbsent = true)
    (h : v.coerce t = .ok w) : ¬w.isAbsent = true := by
  have hof : w.OfType t := ofType_of_coerce (not_isNull_of_not_isAbsent hv) h
  rw [coerce.eq_def, if_neg (not_isNull_of_not_isAbsent hv)] at h
  cases t with
  | number | boolean | date =>
    obtain ⟨x, rfl⟩ := hof
    exact Bool.false_ne_true
  | string =>
    dsimp only at h
    split_ifs at h
    exact Except.ok.inj h ▸ hv
  | any => exact Except.ok.inj h ▸ hv

/-- What is left out of a type is of that type as it is. -/
theorem DataType.coerce_empty (t : DataType) : t.empty.coerce t = .ok t.empty := by
  cases t <;> rfl

namespace DeclaredType

variable {t : DeclaredType} {v w : Value}

theorem coerce_unknown {name : String} (h : (unknown name).coerce v = .ok w) :
    v.isNull = true ∧ v = w := by
  rw [coerce] at h
  split_ifs at h with hnull
  exact ⟨hnull, Except.ok.inj h⟩

/-- **A converted value is converted to itself**, whatever the declared type. -/
theorem coerce_of_coerce (h : t.coerce v = .ok w) : t.coerce w = .ok w := by
  cases t with
  | known t => exact Value.coerce_of_coerce h
  | unknown name =>
    obtain ⟨-, rfl⟩ := coerce_unknown h
    exact h

theorem not_isAbsent_of_coerce (hv : ¬v.isAbsent = true) (h : t.coerce v = .ok w) :
    ¬w.isAbsent = true := by
  cases t with
  | known t => exact Value.not_isAbsent_of_coerce hv h
  | unknown name => exact absurd (coerce_unknown h).1 (Value.not_isNull_of_not_isAbsent hv)

end DeclaredType

/-! ### Seeding a record -/

namespace Seed

variable {s : Seed} {seeds : List Seed} {fields fields' values : Keyed Value} {given v : Value}

/-- The value of an input that may be left out, or is there. -/
theorem value_eq_ok_of_coerce (hoptional : given.isAbsent = true → s.mandatory = false)
    (h : s.type.coerce (if given.isAbsent then s.fallback else given) = .ok v) :
    s.value given = .ok v := by
  have hthere : ¬(given.isAbsent && s.mandatory) = true := by
    cases habsent : given.isAbsent with
    | false => exact nofun
    | true => simp [hoptional habsent]
  rw [value, if_neg hthere, h]

/-- **A seeded value is seeded to itself.** -/
theorem value_of_value (h : s.value given = .ok v) : s.value v = .ok v := by
  obtain ⟨hoptional, hcoerce⟩ := value_eq_ok h
  by_cases hgiven : given.isAbsent = true
  · rw [if_pos hgiven] at hcoerce
    refine value_eq_ok_of_coerce (fun _ => hoptional hgiven) ?_
    -- What stands in for an input may itself be absent, and then it stands in once more.
    split_ifs
    · exact hcoerce
    · exact DeclaredType.coerce_of_coerce hcoerce
  · rw [if_neg hgiven] at hcoerce
    have hv : ¬v.isAbsent = true := DeclaredType.not_isAbsent_of_coerce hgiven hcoerce
    refine value_eq_ok_of_coerce (fun habsent => absurd habsent hv) ?_
    rw [if_neg hv]
    exact DeclaredType.coerce_of_coerce hcoerce

/-- **Seeding depends on the values of the declared inputs only.** -/
theorem context_eq_of_values
    (h : ∀ s ∈ seeds, s.value ((Value.record fields).field s.name) =
      s.value ((Value.record fields').field s.name)) :
    context seeds (.record fields) = context seeds (.record fields') := by
  rw [context, context]
  generalize ([] : Keyed Value) = values
  induction seeds generalizing values with
  | nil => rfl
  | cons s seeds ih =>
    obtain ⟨hs, hseeds⟩ := List.forall_mem_cons.mp h
    have hstep : ∀ fields : Keyed Value, (Seed.given (.record fields) s.name >>= s.value) =
        s.value ((Value.record fields).field s.name) := fun _ => rfl
    simp only [List.foldlM_cons, ← bind_assoc, hstep, hs]
    exact bind_congr fun values' => ih hseeds values'

/-- **What seeding comes to**: each input has the value that is seeded for its name; or there is a
first one that is refused. -/
theorem ends_context_record (hapart : (seeds.map (·.name)).Nodup) (fields : Keyed Value) :
    Ends (context seeds (.record fields))
      (fun values => ∀ s ∈ seeds, ∃ v, values.find? s.name = some v ∧
        s.value ((Value.record fields).field s.name) = .ok v)
      (fun trouble => ∃ before s after, seeds = before ++ s :: after ∧
        (∀ t ∈ before, ∃ v, t.value ((Value.record fields).field t.name) = .ok v) ∧
        s.value ((Value.record fields).field s.name) = .error trouble) := by
  refine ends_foldlM _ (fun (done : List Seed) (values : Keyed Value) =>
    ∀ s ∈ done, ∃ v, values.find? s.name = some v ∧
      s.value ((Value.record fields).field s.name) = .ok v) _ (by simp) ?_
  intro done s rest values hsplit hdone
  have hgiven : Seed.given (.record fields) s.name = .ok ((Value.record fields).field s.name) := rfl
  rw [hgiven]
  refine Ends.ok_bind ?_
  cases hvalue : s.value ((Value.record fields).field s.name) with
  | error trouble =>
    refine ⟨done, s, rest, hsplit, fun t ht => ?_, hvalue⟩
    obtain ⟨v, -, hv⟩ := hdone t ht
    exact ⟨v, hv⟩
  | ok v =>
    rw [hsplit, List.map_append, List.nodup_append] at hapart
    refine forall_mem_snoc.mpr ⟨fun t ht => ?_, v, Keyed.find?_set_self .., hvalue⟩
    -- The inputs before have other names, and keep their values.
    have hne : t.name ≠ s.name :=
      hapart.2.2 t.name (List.mem_map_of_mem ht) s.name (by simp)
    obtain ⟨w, hfind, hw⟩ := hdone t ht
    exact ⟨w, (Keyed.find?_set_of_ne values v hne).trans hfind, hw⟩

end Seed

/-! ### Declared inputs -/

namespace InputDecl

variable {d : InputDecl} {given v : Value}

/-- **What an input takes**: the value that is given, converted to its type, or its default if it is
left out and may be. -/
inductive Takes (d : InputDecl) (given : Value) : Value → Prop
  /-- What is given is converted. -/
  | present {v : Value} : ¬given.isAbsent = true → given.coerce d.type = .ok v → Takes d given v
  /-- The default stands for what is left out. -/
  | absent {v : Value} : given.isAbsent = true → d.mandatory = false →
      d.defaultValue = .ok v → Takes d given v

/-- **What an input is refused with.** -/
inductive Refuses (d : InputDecl) (given : Value) : Trouble → Prop
  /-- It has to be given, and is not. -/
  | missing : given.isAbsent = true → d.mandatory = true →
      Refuses d given (.refused FailureCode.missingInput s!"{d.name} is required")
  /-- What is given is not of its type. -/
  | invalid {f : Fault} : ¬given.isAbsent = true → given.coerce d.type = .error f →
      Refuses d given
        (.refused FailureCode.invalidValue s!"{d.name} must be of type {d.type.name}")

/-- **An input is in order**: it is given and of its type, or left out and may be. -/
def InOrder (d : InputDecl) (given : Value) : Prop :=
  (¬given.isAbsent = true ∧ ∃ v, given.coerce d.type = .ok v) ∨
    (given.isAbsent = true ∧ d.mandatory = false)

theorem Takes.inOrder (h : d.Takes given v) : d.InOrder given := by
  cases h with
  | present hgiven hv => exact .inl ⟨hgiven, v, hv⟩
  | absent hgiven hoptional _ => exact .inr ⟨hgiven, hoptional⟩

/-- An input that is refused is not in order. -/
theorem Refuses.not_inOrder {trouble : Trouble} (h : d.Refuses given trouble) :
    ¬d.InOrder given := by
  cases h with
  | missing hgiven hmandatory =>
    rintro (⟨hthere, -⟩ | ⟨-, hoptional⟩)
    · exact hthere hgiven
    · exact nomatch hmandatory.symm.trans hoptional
  | invalid hgiven herror =>
    rintro (⟨-, v, hv⟩ | ⟨habsent, -⟩)
    · exact nomatch herror.symm.trans hv
    · exact hgiven habsent

/-- **The default is read in the same way** when a rule is compiled and when an input is seeded. -/
theorem coerce_fallback (d : InputDecl) : d.seed.type.coerce d.seed.fallback = d.defaultValue := by
  change (if d.default.isNull then d.type.empty else d.default).coerce d.type = d.defaultValue
  rw [defaultValue]
  split_ifs
  · exact d.type.coerce_empty
  · rfl

/-- **What one input comes to**, if its default can be read. -/
theorem ends_value (hdefault : ∃ v, d.defaultValue = .ok v) (given : Value) :
    Ends (d.seed.value given) (d.Takes given) (d.Refuses given) := by
  by_cases hgiven : given.isAbsent = true
  · by_cases hmandatory : d.mandatory = true
    · have hvalue : d.seed.value given =
          .error (.refused FailureCode.missingInput s!"{d.name} is required") :=
        if_pos (by rw [hgiven]; exact hmandatory)
      rw [hvalue]
      exact .missing hgiven hmandatory
    · have hoptional : d.mandatory = false := by simpa using hmandatory
      obtain ⟨v, hv⟩ := hdefault
      have hvalue : d.seed.value given = .ok v := by
        refine Seed.value_eq_ok_of_coerce (fun _ => hoptional) ?_
        rw [if_pos hgiven, d.coerce_fallback, hv]
      rw [hvalue]
      exact .absent hgiven hoptional hv
  · cases hcoerce : given.coerce d.type with
    | ok v =>
      have hvalue : d.seed.value given = .ok v := by
        refine Seed.value_eq_ok_of_coerce (fun habsent => absurd habsent hgiven) ?_
        rw [if_neg hgiven]
        exact hcoerce
      rw [hvalue]
      exact .present hgiven hcoerce
    | error f =>
      have hfault : f.isValueFault = true := (given.ends_coerce d.type).of_error hcoerce
      have hdeclared : d.seed.type.coerce given = .error f := hcoerce
      have hvalue : d.seed.value given = .error
          (.refused FailureCode.invalidValue s!"{d.name} must be of type {d.type.name}") := by
        rw [Seed.value, if_neg (by simp [hgiven]), if_neg hgiven, hdeclared]
        exact if_pos hfault
      rw [hvalue]
      exact .invalid hgiven hcoerce

end InputDecl

/-- **The defaults of a compiled rule can be read.** -/
theorem Rule.exists_defaultValue_of_compile {r : Rule} {registry : Registry} {c : CompiledRule}
    (h : r.compile registry = .ok c) : ∀ d ∈ r.inputs, ∃ v, d.defaultValue = .ok v := by
  rw [compile] at h
  obtain ⟨_, -, h⟩ := bind_eq_ok.mp h
  obtain ⟨_, -, h⟩ := bind_eq_ok.mp h
  obtain ⟨_, hdefaults, -⟩ := bind_eq_ok.mp h
  intro d hd
  have hread := forall_of_forM_eq_ok hdefaults d hd
  split at hread
  next v hv => exact ⟨v, hv⟩
  next => split_ifs at hread

/-- **What seeding comes to** for declared inputs of different names, whose defaults can be read. -/
theorem Context.ends_seed_record {inputs : List InputDecl}
    (hapart : (inputs.map (·.name)).Nodup) (hdefaults : ∀ d ∈ inputs, ∃ v, d.defaultValue = .ok v)
    (fields : Keyed Value) :
    Ends (seed inputs (.record fields))
      (fun context => context.values.keys = inputs.map (·.name) ∧
        ∀ d ∈ inputs, ∃ v, context.values.find? d.name = some v ∧
          d.Takes ((Value.record fields).field d.name) v)
      (fun trouble => ∃ before d after, inputs = before ++ d :: after ∧
        (∀ e ∈ before, e.InOrder ((Value.record fields).field e.name)) ∧
        d.Refuses ((Value.record fields).field d.name) trouble) := by
  have hnames : (inputs.map InputDecl.seed).map (·.name) = inputs.map (·.name) :=
    List.map_map.trans (List.map_congr_left fun _ _ => rfl)
  have hseeds := Seed.ends_context_record (hnames ▸ hapart) fields
  rw [seed]
  cases hcontext : Seed.context (inputs.map InputDecl.seed) (.record fields) with
  | ok values =>
    refine ⟨(Seed.keys_of_context (hnames ▸ hapart) hcontext).trans hnames, fun d hd => ?_⟩
    obtain ⟨v, hfind, hv⟩ := hseeds.of_ok hcontext d.seed (List.mem_map_of_mem hd)
    exact ⟨v, hfind, (InputDecl.ends_value (hdefaults d hd) _).of_ok hv⟩
  | error trouble =>
    obtain ⟨before', s, after', hsplit, hbefore, hrefused⟩ := hseeds.of_error hcontext
    obtain ⟨before, rest, rfl, rfl, hrest⟩ := List.map_eq_append_iff.mp hsplit
    obtain ⟨d, after, rfl, rfl, -⟩ := List.map_eq_cons_iff.mp hrest
    obtain ⟨hdefaults, hdefault, -⟩ : (∀ e ∈ before, _) ∧ (∃ v, d.defaultValue = .ok v) ∧ _ := by
      simpa only [List.forall_mem_append, List.forall_mem_cons] using hdefaults
    refine ⟨before, d, after, rfl, fun e he => ?_, ?_⟩
    · obtain ⟨v, hv⟩ := hbefore e.seed (List.mem_map_of_mem he)
      exact ((InputDecl.ends_value (hdefaults e he) _).of_ok hv).inOrder
    · exact (InputDecl.ends_value hdefault _).of_error hrefused

/-- An empty record of inputs is as good as itself. -/
theorem Value.orElse_record (fields : Keyed Value) :
    (Value.record fields).orElse (.record []) = .record fields := by
  cases fields <;> rfl

namespace CompiledRule

variable {c : CompiledRule} {fields fields' : Keyed Value} {limit : Int}

/-- What seeding refuses is the failure that the run is told to end with. -/
theorem execute_of_refused {code : Int} {message : String}
    (h : Context.seed c.rule.inputs (.record fields) = .error (.refused code message)) :
    c.execute (.record fields) limit = .ok (.failure code message) := by
  rw [execute, Value.orElse_record, run, h]
  rfl

/-- Runs of inputs that are seeded alike are the same. -/
theorem execute_eq_of_seed (h : Context.seed c.rule.inputs (.record fields) =
      Context.seed c.rule.inputs (.record fields')) :
    c.execute (.record fields) limit = c.execute (.record fields') limit := by
  rw [execute, execute, Value.orElse_record, Value.orElse_record, run, run, h]

end CompiledRule

/-- **Compiled rules are seeded exactly.** Seeding goes through if and only if every declared input
is in order: there and of its type, or left out where it may be. The context names the declared
inputs then and nothing else, with the value that was given, converted to its type, or else the
default. If seeding does not go through, it is refused at the first input that is not in order, as
missing or as invalid, and this is the failure that every run on these inputs ends with. -/
theorem Rule.seeded_exactly {r : Rule} {registry : Registry} {c : CompiledRule}
    (h : r.compile registry = .ok c) (fields : Keyed Value) :
    ((∃ context, Context.seed c.rule.inputs (.record fields) = .ok context) ↔
        ∀ d ∈ r.inputs, d.InOrder ((Value.record fields).field d.name)) ∧
      Ends (Context.seed c.rule.inputs (.record fields))
        (fun context => context.values.keys = r.inputNames ∧
          ∀ d ∈ r.inputs, ∃ v, context.values.find? d.name = some v ∧
            d.Takes ((Value.record fields).field d.name) v)
        (fun trouble => ∃ before d after, r.inputs = before ++ d :: after ∧
          (∀ e ∈ before, e.InOrder ((Value.record fields).field e.name)) ∧
          d.Refuses ((Value.record fields).field d.name) trouble) ∧
      ∀ code message, Context.seed c.rule.inputs (.record fields) = .error (.refused code message) →
        ∀ limit, c.execute (.record fields) limit = .ok (.failure code message) := by
  obtain ⟨a, -, hcompilation⟩ := exists_analysis h
  have hdefaults := exists_defaultValue_of_compile h
  obtain rfl := hcompilation.rule
  have hends := Context.ends_seed_record (not_repeatsName_iff.mp hcompilation.checked.apart).1
    hdefaults fields
  refine ⟨⟨?taken, ?inOrder⟩, hends, fun code message hseed limit => c.execute_of_refused hseed⟩
  case taken =>
    rintro ⟨context, hseed⟩ d hd
    obtain ⟨v, -, htakes⟩ := (hends.of_ok hseed).2 d hd
    exact htakes.inOrder
  case inOrder =>
    intro hinOrder
    cases hseed : Context.seed c.rule.inputs (.record fields) with
    | ok context => exact ⟨context, rfl⟩
    | error trouble =>
      obtain ⟨before, d, after, hsplit, -, hrefuses⟩ := hends.of_error hseed
      have hd : d ∈ c.rule.inputs := by simp [hsplit]
      exact absurd (hinOrder d hd) hrefuses.not_inOrder

/-! ### A rule with an optional input -/

/-- A rule that answers with what it was given. -/
def greeting : Rule :=
  { id := "greeting", name := "Greeting"
    inputs := [{ name := "who", type := .string, mandatory := true },
      { name := "times", type := .number, default := .text "3" }]
    steps :=
      [{ id := "tell", action := .output (.success (.array [.input "who", .input "times"])) }] }

/-- What `greeting` is compiled to. -/
def greetingCompiled : CompiledRule :=
  { rule := greeting, entry := "tell", order := ["tell"], calls := []
    types := [("who", .string), ("times", .number)]
    fingerprint := greeting.fingerprint
    version := Catalogue.version }

theorem greeting_compile : greeting.compile Catalogue.standard = .ok greetingCompiled := rfl

/-- Inputs for `greeting`, of which one is as good as left out. -/
def greetingInputs : Keyed Value :=
  [("who", .text "Ada"), ("times", .text "")]

/-- What `greetingInputs` are seeded to. -/
def greetingValues : Keyed Value :=
  [("who", .text "Ada"), ("times", .decimal (.ofInt 3))]

theorem greeting_seeded_exactly :
    greeting.compile Catalogue.standard = .ok greetingCompiled ∧
      Context.seed greeting.inputs (.record greetingInputs) =
        .ok ⟨greeting.inputs, greetingValues⟩ ∧
      (∀ d ∈ greeting.inputs, d.InOrder ((Value.record greetingInputs).field d.name)) ∧
      ∀ limit, greetingCompiled.execute (.record [("times", .int 5)]) limit =
        .ok (.failure FailureCode.missingInput "who is required") := by
  have hseed : Context.seed greeting.inputs (.record greetingInputs) =
      .ok ⟨greeting.inputs, greetingValues⟩ := rfl
  obtain ⟨hinOrder, -, -⟩ := Rule.seeded_exactly greeting_compile greetingInputs
  obtain ⟨-, -, hfailure⟩ := Rule.seeded_exactly greeting_compile [("times", .int 5)]
  exact ⟨greeting_compile, hseed, hinOrder.mp ⟨_, hseed⟩, hfailure _ _ rfl⟩

/-! ### What inputs have in common -/

/-- **Two values are one input**: they are the same, or both as good as left out. -/
def Value.SameInput (v w : Value) : Prop :=
  v = w ∨ v.isAbsent = true ∧ w.isAbsent = true

theorem Seed.value_eq_of_sameInput {v w : Value} (h : v.SameInput w) (s : Seed) :
    s.value v = s.value w := by
  rcases h with rfl | ⟨hv, hw⟩
  · rfl
  · rw [value, value, hv, hw]
    rfl

/-- **Seeding is a normal form.** Of inputs with different names, what seeding gives is seeded to
itself. Two records that have the same inputs under the declared names, whatever else stands in
them, are seeded alike; and every run of a compiled rule on two records that have the same inputs
under the names that it declares has the same result. -/
theorem Seed.normalises {seeds : List Seed} (hapart : (seeds.map (·.name)).Nodup)
    (fields : Keyed Value) :
    (∀ values, context seeds (.record fields) = .ok values →
        context seeds (.record values) = .ok values) ∧
      (∀ fields' : Keyed Value,
        (∀ s ∈ seeds, ((Value.record fields).field s.name).SameInput
          ((Value.record fields').field s.name)) →
        context seeds (.record fields) = context seeds (.record fields')) ∧
      ∀ (c : CompiledRule) (fields' : Keyed Value) (limit : Int),
        (∀ d ∈ c.rule.inputs, ((Value.record fields).field d.name).SameInput
          ((Value.record fields').field d.name)) →
        c.execute (.record fields) limit = c.execute (.record fields') limit := by
  have hcongr : ∀ (seeds : List Seed) (fields' : Keyed Value),
      (∀ s ∈ seeds, ((Value.record fields).field s.name).SameInput
        ((Value.record fields').field s.name)) →
      context seeds (.record fields) = context seeds (.record fields') := fun _ _ hsame =>
    context_eq_of_values fun s hs => s.value_eq_of_sameInput (hsame s hs)
  refine ⟨fun values hvalues => ?again, hcongr seeds, fun c fields' limit hsame => ?runs⟩
  case again =>
    have hseeded := (ends_context_record hapart fields).of_ok hvalues
    rw [← hvalues]
    refine context_eq_of_values fun s hs => ?_
    obtain ⟨v, hfind, hv⟩ := hseeded s hs
    have hfield : (Value.record values).field s.name = v := by
      rw [Value.field, hfind]
      rfl
    rw [hfield, hv]
    exact value_of_value hv
  case runs =>
    refine CompiledRule.execute_eq_of_seed ?_
    rw [Context.seed, Context.seed, hcongr _ fields' (List.forall_mem_map.mpr hsame)]

theorem greeting_normalises :
    ((greeting.inputs.map InputDecl.seed).map (·.name)).Nodup ∧
      Seed.context (greeting.inputs.map InputDecl.seed) (.record greetingInputs) =
        .ok greetingValues ∧
      Seed.context (greeting.inputs.map InputDecl.seed) (.record greetingValues) =
        .ok greetingValues ∧
      greetingCompiled.execute (.record greetingInputs) 10 =
        greetingCompiled.execute (.record [("planet", .text "Mars"), ("who", .text "Ada")]) 10 := by
  have hapart : ((greeting.inputs.map InputDecl.seed).map (·.name)).Nodup := by decide
  have hseeded : Seed.context (greeting.inputs.map InputDecl.seed) (.record greetingInputs) =
      .ok greetingValues := rfl
  obtain ⟨hagain, -, hruns⟩ := Seed.normalises hapart greetingInputs
  have hsame : ∀ d ∈ greeting.inputs, ((Value.record greetingInputs).field d.name).SameInput
      ((Value.record [("planet", .text "Mars"), ("who", .text "Ada")]).field d.name) :=
    List.forall_mem_cons.mpr ⟨.inl rfl, List.forall_mem_singleton.mpr (.inr ⟨rfl, rfl⟩)⟩
  exact ⟨hapart, hseeded, hagain _ hseeded, hruns greetingCompiled _ 10 hsame⟩

end RuleFlow
