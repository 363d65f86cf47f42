import RuleFlow.Proofs.Alike
import RuleFlow.Proofs.Rule.Types

/-!
# The order of the editor

The steps of a rule stand in the order of its editor, and most checks go through them in that order.
Where the steps stand in another order, another problem may be met first, a walk may start
elsewhere, and another step of a name may count. None of this is seen from outside.

## Why the order does not matter

* **Refused rules.** Each flaw of a rule is said of its steps as a set
  (`RuleFlow.Rule.Shuffled.firstFlaw`), and the kind of error is that of the first flaw.
* **Accepted rules.** No two steps have one name, so that looking a step up gives the same step
  (`RuleFlow.Rule.Shuffled.step?_eq`); and there is one first step, at which the walk starts that
  gives the order (`RuleFlow.Rule.Shuffled.analysis_eq`). From there on everything goes by that
  order.

`RuleFlow.Rule.Shuffled.compile_alike` is the result.
-/

namespace RuleFlow

namespace Rule

variable {r r' : Rule} {a a' : Analysis} {first id target : String} {s : Step}
  {passed : List Step}

/-- **Two rules differ in the order of their steps alone.** -/
structure Shuffled (r r' : Rule) : Prop where
  /-- They have one identifier. -/
  id : r.id = r'.id
  /-- They have one name. -/
  name : r.name = r'.name
  /-- They declare the same inputs. -/
  inputs : r.inputs = r'.inputs
  /-- They have the same steps, in some order each. -/
  steps : r.steps.Perm r'.steps
  /-- They declare the same first step. -/
  entry : r.entry = r'.entry

theorem shuffled_of_perm {steps : List Step} (h : r.steps.Perm steps) :
    r.Shuffled { r with steps } :=
  ⟨rfl, rfl, rfl, h, rfl⟩

namespace Shuffled

theorem symm (h : r.Shuffled r') : r'.Shuffled r :=
  ⟨h.id.symm, h.name.symm, h.inputs.symm, h.steps.symm, h.entry.symm⟩

theorem mem_steps (h : r.Shuffled r') : s ∈ r.steps ↔ s ∈ r'.steps :=
  h.steps.mem_iff

theorem inputNames (h : r.Shuffled r') : r.inputNames = r'.inputNames := by
  rw [Rule.inputNames, Rule.inputNames, h.inputs]

theorem mem_ids (h : r.Shuffled r') : id ∈ r.ids ↔ id ∈ r'.ids :=
  (h.steps.map (·.id)).mem_iff

/-! ### The flaws do not depend on the order -/

theorem repeatsName (h : r.Shuffled r') : r.RepeatsName ↔ r'.RepeatsName := by
  refine not_iff_not.mp ?_
  rw [not_repeatsName_iff, not_repeatsName_iff, h.inputNames]
  exact and_congr_right fun _ => ⟨fun hr => hr.perm h.steps.symm, fun hr => hr.perm h.steps⟩

theorem dangles (h : r.Shuffled r') : r.Dangles ↔ r'.Dangles := by
  simp only [Dangles, h.mem_steps, h.mem_ids, h.entry]

theorem steps_eq_nil (h : r.Shuffled r') : r.steps = [] ↔ r'.steps = [] := by
  rw [← List.length_eq_zero_iff, ← List.length_eq_zero_iff, h.steps.length_eq]

theorem follows_eq (h : r.Shuffled r') : r.Follows = r'.Follows := by
  funext id target
  simp only [Follows, h.mem_steps]

theorem circles (h : r.Shuffled r') : r.Circles ↔ r'.Circles := by
  rw [Circles, Circles, h.follows_eq]

/-- The first steps are the same, in some order. -/
theorem perm_firsts (h : r.Shuffled r') : r.firsts.Perm r'.firsts := by
  have hsame : (fun s : Step => decide (∀ t ∈ r.steps, some s.id ∉ t.targets)) =
      fun s => decide (∀ t ∈ r'.steps, some s.id ∉ t.targets) := by
    funext s
    simp only [h.mem_steps]
  rw [firsts, firsts, hsame]
  exact h.steps.filter _

theorem lacksEntry (h : r.Shuffled r') : r.LacksEntry ↔ r'.LacksEntry := by
  simp only [LacksEntry, h.perm_firsts.length_eq, h.perm_firsts.mem_iff, h.entry]

theorem way (h : r.Shuffled r') (hway : r.Way first passed id) : r'.Way first passed id := by
  induction hway with
  | start => exact .start
  | onward _ hs htarget ih => exact ih.onward (h.mem_steps.mp hs) htarget

theorem assured (h : r.Shuffled r') {name : String} :
    r.Assured first id name ↔ r'.Assured first id name :=
  forall_congr' fun _ => ⟨fun hr hway => hr (h.symm.way hway), fun hr hway => hr (h.way hway)⟩

theorem readsUndefined (h : r.Shuffled r') : r.ReadsUndefined ↔ r'.ReadsUndefined := by
  simp only [ReadsUndefined, ReadsUnknown, h.perm_firsts.mem_iff, h.mem_steps, h.inputNames,
    h.assured]

theorem endsOpen (h : r.Shuffled r') : r.EndsOpen ↔ r'.EndsOpen := by
  simp only [EndsOpen, h.mem_steps]

/-- **The first flaw is the same**, whichever problem a check meets first. -/
theorem firstFlaw (h : r.Shuffled r') {found : Option ErrorKind} (hflaw : FirstFlaw r.flaws found) :
    FirstFlaw r'.flaws found := by
  have hflaws : r.flaws = r'.flaws := by
    rw [flaws, flaws, propext h.repeatsName, propext h.dangles, propext h.steps_eq_nil,
      propext h.circles, propext h.lacksEntry, propext h.readsUndefined, propext h.endsOpen]
  exact hflaws ▸ hflaw

/-! ### What is looked up does not depend on the order -/

/-- **The step of a name**, where no two steps have one name. -/
theorem step?_eq (h : r.Shuffled r') (hunique : r.ids.Nodup) : r.step? = r'.step? := by
  -- Of steps with one name the first would be found, and which one that is depends on the order.
  have hunique' : r'.ids.Nodup := (h.steps.map Step.id).nodup_iff.mp hunique
  funext id
  refine Option.ext fun s => ?_
  rw [step?_eq_some_iff hunique, step?_eq_some_iff hunique', h.mem_steps]

theorem walkFrom_eq (h : r.Shuffled r') (hunique : r.ids.Nodup) : r.walkFrom = r'.walkFrom := by
  have hsuccessors : r.successors = r'.successors := by
    funext id
    rw [successors, successors, h.step?_eq hunique]
  funext walk id
  rw [walkFrom, walkFrom, hsuccessors, h.steps.length_eq]

end Shuffled

/-! ### The analysis -/

/-- **The order of an analysis** is what the walk from its first step leaves behind. -/
theorem walkFrom_of_analyze (h : r.analyze = .ok a) :
    ∃ walk, r.walkFrom {} a.entry = .ok walk ∧ walk.finished = a.order := by
  have hchecked := checked_of_analyze h
  obtain ⟨s, hfirsts, hentry⟩ := hchecked.entry
  -- A declared first step is the one that no step leads to, or the analysis would have failed.
  have hdeclared : ∀ declared, r.entry = some declared → declared = s.id := by
    intro declared hdeclared
    by_contra hne
    refine hchecked.single (.inr ⟨declared, hdeclared, fun t ht => ?_⟩)
    obtain rfl : t = s := by simpa [hfirsts] using ht
    exact fun heq => hne heq.symm
  rw [analyze] at h
  obtain ⟨_, -, h⟩ := bind_eq_ok.mp h
  obtain ⟨_, -, h⟩ := bind_eq_ok.mp h
  split at h
  · cases h
  obtain ⟨order, horder, h⟩ := bind_eq_ok.mp h
  obtain ⟨entry, -, h⟩ := bind_eq_ok.mp h
  obtain ⟨defined, -, h⟩ := bind_eq_ok.mp h
  obtain ⟨_, -, h⟩ := bind_eq_ok.mp h
  obtain rfl := Except.ok.inj h
  rw [start_eq hchecked.closed hfirsts hdeclared, hentry, checkCircles] at horder
  obtain ⟨walk, hwalk, horder⟩ := bind_eq_ok.mp horder
  obtain ⟨_, -, horder⟩ := bind_eq_ok.mp horder
  exact ⟨walk, hwalk, Except.ok.inj horder⟩

namespace Shuffled

/-- **Accepted rules are analysed alike**: the walks start at the same step. -/
theorem analysis_eq (h : r.Shuffled r') (ha : r.analyze = .ok a) (ha' : r'.analyze = .ok a') :
    a.entry = a'.entry ∧ a.order = a'.order := by
  have hchecked := checked_of_analyze ha
  -- There is one step that no step leads to, and one is the same in any order.
  have hentry : a.entry = a'.entry := by
    obtain ⟨s, hfirsts, hid⟩ := hchecked.entry
    obtain ⟨s', hfirsts', hid'⟩ := (checked_of_analyze ha').entry
    have hperm := h.perm_firsts
    rw [hfirsts, hfirsts', List.singleton_perm_singleton] at hperm
    rw [← hid, ← hid', hperm]
  obtain ⟨walk, hwalk, horder⟩ := walkFrom_of_analyze ha
  obtain ⟨walk', hwalk', horder'⟩ := walkFrom_of_analyze ha'
  rw [h.walkFrom_eq hchecked.ordered.unique, hentry, hwalk'] at hwalk
  obtain rfl := Except.ok.inj hwalk
  exact ⟨hentry, horder.symm.trans horder'⟩

/-- **The analyses end alike**: both accept, or both tell of the same kind of error. -/
theorem analyze (h : r.Shuffled r') :
    EndAlike r.analyze r'.analyze
      (fun a a' => r.Checked a ∧ a.entry = a'.entry ∧ a.order = a'.order)
      (fun e e' => e.kind = e'.kind) := by
  have hends := r.ends_analyze
  have hends' := r'.ends_analyze
  cases ha : r.analyze with
  | ok a =>
    cases ha' : r'.analyze with
    | ok a' => exact ⟨hends.of_ok ha, h.analysis_eq ha ha'⟩
    | error e' =>
      have hnone := h.firstFlaw (hends.of_ok ha).firstFlaw
      exact nomatch hnone.unique (hends'.of_error ha')
  | error e =>
    have hsome := h.firstFlaw (hends.of_error ha)
    cases ha' : r'.analyze with
    | ok a' => exact nomatch hsome.unique (hends'.of_ok ha').firstFlaw
    | error e' => exact Option.some.inj (hsome.unique (hends'.of_error ha'))

end Shuffled

end Rule

/-! ### Runs -/

namespace CompiledRule

variable {c c' : CompiledRule}

/-- **Two compiled rules have what a run reads in common.** -/
structure RunsAlike (c c' : CompiledRule) : Prop where
  /-- Their rules have one identifier. -/
  id : c.rule.id = c'.rule.id
  /-- Their rules declare the same inputs. -/
  inputs : c.rule.inputs = c'.rule.inputs
  /-- Names stand for the same steps. -/
  step? : c.rule.step? = c'.rule.step?
  /-- They start at the same step. -/
  entry : c.entry = c'.entry
  /-- The calls are bound alike. -/
  calls : c.calls = c'.calls
  /-- The same types are known. -/
  types : c.types = c'.types

namespace RunsAlike

theorem joined (h : c.RunsAlike c') (context : Context) (before : Value)
    (conditions : List Condition) :
    c.joined context before conditions = c'.joined context before conditions := by
  induction conditions generalizing before with
  | nil => rfl
  | cons condition rest ih =>
    have hholds : c.holds context condition = c'.holds context condition := by
      rw [holds, holds, h.types, h.id]
    simp only [CompiledRule.joined, hholds, ih]

/-- **One step** comes to the same. -/
theorem perform (h : c.RunsAlike c') (context : Context) (s : Step) :
    c.perform context s = c'.perform context s := by
  simp only [CompiledRule.perform, h.calls, h.joined]

/-- **A run from any step on** comes to the same, by induction on the steps that are left. -/
theorem runFrom (h : c.RunsAlike c') (limit : Int) (left : Nat) (context : Context)
    (target : Option String) :
    c.runFrom limit left context target = c'.runFrom limit left context target := by
  induction left generalizing context target with
  | zero => cases target <;> simp only [CompiledRule.runFrom, h.id]
  | succ left ih =>
    cases target with
    | none => simp only [CompiledRule.runFrom, h.id]
    | some id => simp only [CompiledRule.runFrom, h.step?, h.perform, ih]

/-- **Whole runs** come to the same, with any inputs and any bound. -/
theorem execute (h : c.RunsAlike c') (inputs : Value) (limit : Int) :
    c.execute inputs limit = c'.execute inputs limit := by
  have hrun : c.run (inputs.orElse (.record [])) limit =
      c'.run (inputs.orElse (.record [])) limit := by
    simp only [run, h.inputs, h.id, h.entry, h.runFrom]
  rw [CompiledRule.execute, CompiledRule.execute, hrun]

end RunsAlike

end CompiledRule

/-! ### Compiling -/

namespace Rule.Shuffled

variable {r r' : Rule}

/-- **The order of the editor does not matter.** Compiling two rules that differ in it alone ends
alike: with errors of one kind, or with compiled rules that have the same first step, order, calls,
types and version, and that run alike with all inputs under every bound. -/
theorem compile_alike (h : r.Shuffled r') (registry : Registry) :
    EndAlike (r.compile registry) (r'.compile registry)
      (fun c c' => c.entry = c'.entry ∧ c.order = c'.order ∧ c.calls = c'.calls ∧
        c.types = c'.types ∧ c.version = c'.version ∧
        ∀ inputs limit, c.execute inputs limit = c'.execute inputs limit)
      (fun e e' => e.kindName = e'.kindName) := by
  rw [Rule.compile, Rule.compile]
  have hanalyze : EndAlike (r.analyze.mapError RuleError.graph)
      (r'.analyze.mapError RuleError.graph)
      (fun a a' => r.Checked a ∧ a.entry = a'.entry ∧ a.order = a'.order)
      (fun e e' => e.kindName = e'.kindName) :=
    h.analyze.mapError fun _ _ hkind => congrArg ErrorKind.name hkind
  refine hanalyze.bind ?_
  rintro a a' ⟨hchecked, hentry, horder⟩
  refine (endAlike_forM_of_perm h.steps fun s s' e e' he he' => ?combinators).bind fun _ _ _ => ?_
  case combinators =>
    obtain ⟨_, -, rfl⟩ := mapError_eq_error.mp he
    obtain ⟨_, -, rfl⟩ := mapError_eq_error.mp he'
    rfl
  -- From here on both go by the order of the analysis.
  have hstep := h.step?_eq hchecked.ordered.unique
  have hdefaults : r.checkDefaults = r'.checkDefaults := by
    rw [checkDefaults, checkDefaults, h.inputs]
  rw [← hdefaults, ← hentry, ← horder, ← hstep, ← h.inputs]
  refine .bind_same (fun _ => rfl) fun _ => ?_
  refine .bind_same (fun _ => rfl) fun _ => ?_
  refine .bind_same (fun _ => rfl) fun bindings => ?_
  exact ⟨rfl, rfl, rfl, rfl, rfl,
    CompiledRule.RunsAlike.execute ⟨h.id, h.inputs, hstep, rfl, rfl, rfl⟩⟩

end Rule.Shuffled

theorem excerpt_reversed_compile_alike :
    excerpt.Shuffled { excerpt with steps := excerpt.steps.reverse } ∧
      EndAlike (excerpt.compile Catalogue.standard)
        ({ excerpt with steps := excerpt.steps.reverse }.compile Catalogue.standard)
        (fun c c' => c.entry = c'.entry ∧ c.order = c'.order ∧ c.calls = c'.calls ∧
          c.types = c'.types ∧ c.version = c'.version ∧
          ∀ inputs limit, c.execute inputs limit = c'.execute inputs limit)
        (fun e e' => e.kindName = e'.kindName) :=
  have hreversed := Rule.shuffled_of_perm (List.reverse_perm excerpt.steps).symm
  ⟨hreversed, hreversed.compile_alike Catalogue.standard⟩

end RuleFlow
