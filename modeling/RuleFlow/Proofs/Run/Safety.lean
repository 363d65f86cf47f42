import RuleFlow.Proofs.Run.Accepted
import RuleFlow.Proofs.Run.Faults
import RuleFlow.Run.Engine

/-!
# Runs of accepted rules go through

A compiled rule was checked once, and its runs look steps, calls and values up without checking
again. This file shows that they always find them.

## The invariant

A run that comes to a step has come along a way of the graph, and has a value for each input and for
each result of a call on that way (`RuleFlow.CompiledRule.Arrives`). What a step reads was checked
to be an input or a result that **every** way to it produces, so it is a result of this way, too.

* `RuleFlow.CompiledRule.PassesOn` is what a step leaves to the next one, and
  `RuleFlow.CompiledRule.Arrives.proceeds` is that the run then arrives there.
* `RuleFlow.CompiledRule.ends_perform` is what one step preserves.
* `RuleFlow.CompiledRule.ends_runFrom` is the whole run, by induction on the steps left.
* `RuleFlow.Rule.execute_safe` is the result: a run ends with an outcome, with the error that its
  bound asks for, or with a fault of the values that it was given; and at every state that it
  comes to, whatever the next step looks up is there.
-/

namespace RuleFlow

/-- **A halt that values may cause**: a refusal, or a fault of values. -/
def Halt.Ordinary : Halt → Prop
  | .refused .. => True
  | .error (.fault f) => f.Plain
  | .error _ => False

theorem Trouble.Ordinary.halt {t : Trouble} (h : t.Ordinary) (ruleId : String) :
    (Halt.ofTrouble ruleId t).Ordinary := by
  cases t with
  | refused code message => trivial
  | fault f => exact h
  | internal message => exact h
  | stepLimit message => exact h

namespace CompiledRule

variable {c : CompiledRule} {context : Context} {s : Step} {id : String}

/-! ### The invariant -/

/-- **A run comes to a step** along a way: the inputs and the results of the calls on that way have
values. -/
structure Arrives (c : CompiledRule) (context : Context) (id : String) : Prop where
  /-- The inputs have values. -/
  inputs : ∀ name ∈ c.rule.inputNames, context.Knows name
  /-- The results on the way have values. -/
  way : ∃ passed, c.rule.Way c.entry passed id ∧ ∀ name ∈ results passed, context.Knows name

/-- Where a run arrives, a source is supplied if its names are those of inputs and of results that
are assured there. -/
theorem Arrives.supplies_of_known (harrives : c.Arrives context id) {source : Source}
    (hknown : ∀ reference ∈ source.references,
      reference.name ∈ c.rule.inputNames ∨ c.rule.Assured c.entry id reference.name) :
    context.Supplies source := by
  intro reference href
  obtain ⟨passed, hway, hknows⟩ := harrives.way
  -- What every way to the step produces was produced on the way that the run has come.
  rcases hknown reference href with hinput | hassured
  · exact harrives.inputs _ hinput
  · exact hknows _ (hassured passed hway)

/-- Where a run arrives, everything that the step reads is supplied. -/
theorem Arrives.supplies (harrives : c.Arrives context s.id) (hready : c.Ready s) :
    ∀ source ∈ c.reads s, context.Supplies source := fun source hsource =>
  harrives.supplies_of_known (hready.known source hsource)

/-- **Every source that a step reads has a value** where a run arrives. -/
theorem Arrives.exists_resolve (harrives : c.Arrives context s.id) (hready : c.Ready s) :
    ∀ source ∈ c.reads s, ∃ v, context.resolve source = .ok v := fun source hsource =>
  Context.exists_resolve source (hready.literals source hsource)
    (harrives.supplies hready source hsource)

/-- What a step comes to where the run goes on as it should. -/
def Proceeds (c : CompiledRule) : Progress → Prop
  | .finished _ => True
  | .onward context target => ∃ id ∈ c.rule.ids, target = some id ∧ c.Arrives context id

/-- **What a step passes on**: the run goes on at one of its targets, and the context has gained the
result of a call and nothing else. -/
def PassesOn (s : Step) (context : Context) : Progress → Prop
  | .finished _ => True
  | .onward context' target => target ∈ s.targets ∧
      (s.result? = none ∧ context' = context ∨
        ∃ name v, s.result? = some name ∧ context' = context.bind name v)

/-- The way goes on through a step. -/
theorem Arrives.proceeds (harrives : c.Arrives context s.id) (hs : s ∈ c.rule.steps)
    (htargets : ∀ target ∈ s.targets, ∃ id ∈ c.rule.ids, target = some id) {progress : Progress}
    (hpasses : PassesOn s context progress) : c.Proceeds progress := by
  cases progress with
  | finished outcome => trivial
  | onward context' target =>
    obtain ⟨htarget, hgained⟩ := hpasses
    have hkept : ∀ name, context.Knows name → context'.Knows name := by
      intro name hknows
      rcases hgained with ⟨-, rfl⟩ | ⟨_, v, -, rfl⟩
      · exact hknows
      · exact Context.Knows.bind v fun _ => hknows
    have hresult : ∀ name, s.result? = some name → context'.Knows name := by
      intro name hname
      rcases hgained with ⟨hnone, -⟩ | ⟨_, v, hsome, rfl⟩
      · exact nomatch hnone.symm.trans hname
      · obtain rfl := Option.some.inj (hsome.symm.trans hname)
        exact Context.Knows.bind v fun hne => absurd rfl hne
    obtain ⟨id, hid, rfl⟩ := htargets target htarget
    obtain ⟨passed, hway, hknows⟩ := harrives.way
    refine ⟨id, hid, rfl, fun name hname => hkept name (harrives.inputs name hname),
      passed ++ [s], hway.onward hs htarget, fun name hname => ?_⟩
    rw [results_append, List.mem_append, mem_results_singleton] at hname
    exact hname.elim (fun h => hkept name (hknows name h)) (hresult name)

/-! ### One step -/

/-- **Both sides of a condition have a value.** -/
def HasSides (context : Context) (condition : Condition) : Prop :=
  (∃ left, context.resolve condition.lhs = .ok left) ∧
    ∃ right, context.resolve condition.rhs = .ok right

theorem ends_holds {condition : Condition} (h : HasSides context condition) :
    Ends (c.holds context condition) (fun _ => True) Halt.Ordinary := by
  obtain ⟨⟨v, hv⟩, w, hw⟩ := h
  rw [holds, hv, hw]
  exact (Value.ends_compare ..).mapError fun t ht => ht.halt c.rule.id

/-- **What the conditions of a branch come to**, from what each of them comes to where those before
it are true or false. The induction is on the conditions that are left. -/
theorem ends_joined_of_holds {conditions : List Condition} {bad : Halt → Prop}
    (h : ∀ passed condition rest, conditions = passed ++ condition :: rest →
      (∀ before ∈ passed, ∃ b, c.holds context before = .ok b) →
      Ends (c.holds context condition) (fun _ => True) bad) (before : Value) :
    Ends (c.joined context before conditions) (fun _ => True) bad := by
  induction conditions generalizing before with
  | nil => trivial
  | cons condition rest ih =>
    have hholds := h [] condition rest rfl (by simp)
    rw [joined]
    split
    next e he => exact hholds.of_error he
    next b hb =>
      have hrest := ih fun passed other after hsplit hpassed =>
        h (condition :: passed) other after (by rw [hsplit]; rfl)
          (List.forall_mem_cons.mpr ⟨⟨b, hb⟩, hpassed⟩)
      split
      · exact hrest _
      · exact hrest _

theorem ends_joined {conditions : List Condition}
    (h : ∀ condition ∈ conditions, HasSides context condition) (before : Value) :
    Ends (c.joined context before conditions) (fun _ => True) Halt.Ordinary :=
  ends_joined_of_holds (fun passed condition rest hsplit _ =>
    ends_holds (h condition (by simp [hsplit]))) before

/-- What an output step reports has a value where its source has one. -/
theorem exists_reported {report : Report} (haction : s.action = .output report)
    (h : ∀ source ∈ c.reads s, ∃ v, context.resolve source = .ok v) :
    ∃ outcome, reported context report = .ok outcome := by
  cases report with
  | success value =>
    obtain ⟨v, hv⟩ := h value (by simp [reads, Step.sources, haction])
    exact ⟨.success v, by rw [reported, hv]; rfl⟩
  | failure code message =>
    obtain ⟨v, hv⟩ := h message (by simp [reads, Step.sources, haction])
    exact ⟨.failure code v.stringify, by rw [reported, hv]; rfl⟩

/-- The target that a branch goes on at is one of its two. -/
theorem passesOn_of_branch {conditions : List Condition} {onTrue onFalse : Option String}
    (haction : s.action = .branch conditions onTrue onFalse) (matched : Value) :
    PassesOn s context (.onward context (if matched.truthy then onTrue else onFalse)) := by
  refine ⟨?_, .inl ⟨by simp [Step.result?, haction], rfl⟩⟩
  split_ifs <;> simp [Step.targets, haction]

/-- A call passes its result on. -/
theorem passesOn_of_call {name function : String} {arguments : List Argument}
    {next : Option String} (haction : s.action = .call name function arguments next) (v : Value) :
    PassesOn s context (.onward (context.bind name v) next) :=
  ⟨by simp [Step.targets, haction], .inr ⟨name, v, by simp [Step.result?, haction], rfl⟩⟩

/-- **What one step preserves**: where a run arrives at a step, the step goes through or halts on
values, and where the run goes on it arrives again. -/
theorem ends_perform (hready : c.Ready s) (hs : s ∈ c.rule.steps)
    (harrives : c.Arrives context s.id) :
    Ends (c.perform context s) c.Proceeds Halt.Ordinary := by
  have hresolve := harrives.exists_resolve hready
  suffices hpasses : Ends (c.perform context s) (PassesOn s context) Halt.Ordinary from
    hpasses.mono (fun _ => harrives.proceeds hs hready.targets) fun _ h => h
  cases haction : s.action with
  | call result function arguments next =>
    obtain ⟨call, hcall⟩ := hready.bound (by simp [Step.result?, haction])
    have hreads := reads_of_call haction hcall
    obtain ⟨args, hargs⟩ := Context.exists_resolveAll call.args
      (hreads ▸ hready.literals) (hreads ▸ harrives.supplies hready)
    simp only [perform, haction, hcall, hargs, bind, Except.bind]
    split
    next v _ => exact passesOn_of_call haction v
    next => trivial
  | branch conditions onTrue onFalse =>
    have hsides : ∀ condition ∈ conditions, HasSides context condition := by
      intro condition hmem
      obtain ⟨hleft, hright⟩ := mem_reads_of_branch (c := c) haction hmem
      exact ⟨hresolve _ hleft, hresolve _ hright⟩
    simp only [perform, haction]
    exact (ends_joined hsides .null).bind fun matched _ => passesOn_of_branch haction matched
  | output report =>
    obtain ⟨outcome, houtcome⟩ := exists_reported haction hresolve
    simp only [perform, haction, houtcome]
    trivial

/-! ### Whole runs -/

/-- **Seeding** lets a run arrive at the first step. -/
theorem ends_seed (given : Value) :
    Ends (Context.seed c.rule.inputs given) (fun context => c.Arrives context c.entry)
      Trouble.Ordinary := by
  refine (Seed.ends_context _ given).map fun values hseeded =>
    ⟨fun name hname => ?_, [], .start, ?_⟩
  · obtain ⟨d, hd, rfl⟩ := List.mem_map.mp hname
    exact hseeded d.seed (List.mem_map_of_mem hd)
  · simp

/-- **A run goes through** from where it arrives: it ends with an outcome, halts on values, or takes
more steps than its bound allows. -/
theorem ends_runFrom (haccepted : c.Accepted) (limit : Int) (left : Nat) (hid : id ∈ c.rule.ids)
    (harrives : c.Arrives context id) :
    Ends (c.runFrom limit left context (some id)) (fun _ => True)
      (fun e => e.Ordinary ∨ ∃ id, e = .error (.run (.stepLimit c.rule.id limit id))) := by
  induction left generalizing context id with
  | zero => exact .inr ⟨id, rfl⟩
  | succ left ih =>
    obtain ⟨s, hs, rfl⟩ := Rule.mem_ids.mp hid
    have hperform := ends_perform (haccepted.ready s hs) hs harrives
    rw [runFrom, Rule.step?_id haccepted.ordered.unique hs]
    dsimp only
    split
    next e he => exact .inl (hperform.of_error he)
    next => trivial
    next context' target hp =>
      obtain ⟨id, hid, rfl, harrives'⟩ := hperform.of_ok hp
      exact ih hid harrives'

theorem ends_run (haccepted : c.Accepted) (given : Value) (limit : Int) :
    Ends (c.run given limit) (fun _ => True)
      (fun e => e.Ordinary ∨ ∃ id, e = .error (.run (.stepLimit c.rule.id limit id))) := by
  rw [run]
  refine ((ends_seed given).mapError fun t ht => ?_).bind fun context harrives =>
    ends_runFrom haccepted limit _ haccepted.entry harrives
  exact .inl (ht.halt c.rule.id)

/-- **The states of a run** from a state on: those that its steps lead to. -/
inductive Reaches (c : CompiledRule) (start : Context) (first : Option String) :
    Context → Option String → Prop
  /-- The run is where it starts. -/
  | start : Reaches c start first start first
  /-- The run goes on through a step. -/
  | onward {context context' : Context} {id : String} {s : Step} {target : Option String} :
      Reaches c start first context (some id) → c.rule.step? id = some s →
      c.perform context s = .ok (.onward context' target) → Reaches c start first context' target

/-- A run arrives wherever it goes, if each step lets it. -/
theorem Reaches.proceeds_of_step {start : Context} {first : Option String}
    (hstep : ∀ (context : Context) (s : Step), s ∈ c.rule.steps → c.Arrives context s.id →
      ∀ progress, c.perform context s = .ok progress → c.Proceeds progress)
    (hstart : c.Proceeds (.onward start first)) {target : Option String}
    (h : c.Reaches start first context target) : c.Proceeds (.onward context target) := by
  induction h with
  | start => exact hstart
  | onward _ hs hperform ih =>
    obtain ⟨id, -, heq, harrives⟩ := ih
    obtain rfl := Option.some.inj heq
    obtain ⟨hmem, rfl⟩ := Rule.mem_of_step? hs
    exact hstep _ _ hmem harrives _ hperform

/-- A run of an accepted rule arrives wherever it goes. -/
theorem Reaches.proceeds (haccepted : c.Accepted) {start : Context} {first : Option String}
    (hstart : c.Proceeds (.onward start first)) {target : Option String}
    (h : c.Reaches start first context target) : c.Proceeds (.onward context target) :=
  h.proceeds_of_step (fun _ _ hmem harrives _ =>
    (ends_perform (haccepted.ready _ hmem) hmem harrives).of_ok) hstart

/-- **Nothing is missing for the next step** of a run: there is one, its call is bound, and what it
reads has a value, as every input has. -/
structure Supplied (c : CompiledRule) (context : Context) (target : Option String) : Prop where
  /-- Every input has a value. -/
  inputs : ∀ name ∈ c.rule.inputNames, ∃ v, context.input name = .ok v
  /-- There is a next step, and nothing that it looks up is missing. -/
  step : ∃ id s, target = some id ∧ c.rule.step? id = some s ∧
    (s.result?.isSome = true → ∃ call, c.calls.find? s.id = some call) ∧
    ∀ source ∈ c.reads s, ∃ v, context.resolve source = .ok v

theorem Proceeds.supplied (haccepted : c.Accepted) {target : Option String}
    (h : c.Proceeds (.onward context target)) : c.Supplied context target := by
  obtain ⟨id, hid, rfl, harrives⟩ := h
  obtain ⟨s, hs, rfl⟩ := Rule.mem_ids.mp hid
  have hready := haccepted.ready s hs
  refine ⟨fun name hname => ?_, s.id, s, rfl, Rule.step?_id haccepted.ordered.unique hs,
    hready.bound, harrives.exists_resolve hready⟩
  obtain ⟨v, hv⟩ := harrives.inputs name hname
  exact ⟨v, by rw [Context.input, hv]⟩

theorem execute_eq_error_iff {inputs : Value} {limit : Int} {e : RuleError} :
    c.execute inputs limit = .error e ↔
      c.run (inputs.orElse (.record [])) limit = .error (.error e) := by
  rw [execute]
  split
  next outcome h => simp [h]
  next code message h => simp [h]
  next e' h => simp [h]

end CompiledRule

/-- **Runs of compiled rules are safe.** Whatever the inputs and the bound, a run of a rule that was
compiled against the standard catalogue raises nothing but the error that its bound asks for and
faults of the values that it was given; and wherever it comes once its inputs are seeded, nothing
that its next step looks up is missing. -/
theorem Rule.execute_safe {r : Rule} {c : CompiledRule} (h : r.compile Catalogue.standard = .ok c)
    (inputs : Value) (limit : Int) :
    (∀ e, c.execute inputs limit = .error e →
        (∃ id, e = .run (.stepLimit r.id limit id)) ∨ ∃ f : Fault, e = .fault f ∧ f.Plain) ∧
      ∀ start, Context.seed r.inputs (inputs.orElse (.record [])) = .ok start →
        ∀ context target, c.Reaches start (some c.entry) context target →
          c.Supplied context target := by
  obtain ⟨rfl, haccepted⟩ := accepted_of_compile Catalogue.defaultsRead h
  refine ⟨fun e he => ?_, fun start hstart context target hreaches => ?_⟩
  · rw [CompiledRule.execute_eq_error_iff] at he
    rcases (CompiledRule.ends_run haccepted _ limit).of_error he with hordinary | ⟨id, heq⟩
    · cases e with
      | fault f => exact .inr ⟨f, rfl, hordinary⟩
      | _ => exact hordinary.elim
    · injection heq with heq
      exact .inl ⟨id, heq⟩
  · refine (hreaches.proceeds haccepted ?_).supplied haccepted
    exact ⟨c.entry, haccepted.entry, rfl, (CompiledRule.ends_seed _).of_ok hstart⟩

/-! ### A rule with a default -/

/-- A rule that cuts a text off after some characters. -/
def excerpt : Rule :=
  { id := "excerpt", name := "Excerpt"
    inputs := [{ name := "count", type := .number, mandatory := true }]
    steps :=
      [{ id := "cut", action := .call "start" "SUB_STRING"
          [{ source := .literal (.text "abcdef") .string }, { source := .input "count" }]
          (some "tell") },
        { id := "tell", action := .output (.success (.array [.variable "start"])) }] }

/-- What `excerpt` is compiled to: the parameter that no argument goes to has its default. -/
def excerptCompiled : CompiledRule :=
  { rule := excerpt, entry := "cut", order := ["cut", "tell"]
    calls := [("cut",
      { stepId := "cut"
        function := Catalogue.entry 2002 "SUB_STRING" "Substring"
          "Returns substring from start index with length." .str
          [.of "inputText" "Input Text" .string, .of "length" "Length" .number,
            .optional "start" "Start" .number (.int 0)]
          .string .substring "v1.1"
        args := [.literal (.text "abcdef") .string, .input "count",
          .literal (.decimal (.ofInt 0)) .number] })]
    types := [("count", .number), ("start", .string)]
    fingerprint := excerpt.fingerprint
    version := Catalogue.version }

set_option maxRecDepth 10000 in
theorem excerpt_compile : excerpt.compile Catalogue.standard = .ok excerptCompiled := rfl

theorem excerpt_execute_safe :
    excerpt.compile Catalogue.standard = .ok excerptCompiled ∧
      (∀ e, excerptCompiled.execute (.record [("count", .int 3)]) 10 = .error e →
          (∃ id, e = .run (.stepLimit excerpt.id 10 id)) ∨ ∃ f : Fault, e = .fault f ∧ f.Plain) ∧
        ∀ start, Context.seed excerpt.inputs (.record [("count", .int 3)]) = .ok start →
          ∀ context target, excerptCompiled.Reaches start (some "cut") context target →
            excerptCompiled.Supplied context target :=
  ⟨excerpt_compile, Rule.execute_safe excerpt_compile (.record [("count", .int 3)]) 10⟩

end RuleFlow
