import RuleFlow.Proofs.Run.Conditions
import RuleFlow.Service.Meter

/-!
# What is counted of compilations and runs

Whatever is compiled or run is counted once, in the region in force, however it ends. There is one
exception: a run that is left with a fault, which is neither an outcome nor an inconsistency, is not
counted at all.

## How a count follows from the calls

A call adds to a series what its events add (`RuleFlow.Counts.gain`). For each series that a call
may add to, this is one for the calls of some kind in some region, and nothing for all others. So
after any calls the count has risen by the number of these calls.

* `RuleFlow.Call` is something that a service does, `RuleFlow.Call.perform` what it leaves on a
  meter, and `RuleFlow.Call.history` tells the calls with the regions in force.
* `RuleFlow.Call.count_perform` is the step, `RuleFlow.Call.count_performAll` the run.
* `RuleFlow.Call.Counted` is what the counts are after some calls, and
  `RuleFlow.Call.counted_performAll` establishes it.
* `RuleFlow.Call.infinite_run_uncounted` is a run that is not counted.
-/

namespace RuleFlow

/-! ### What increments add up to -/

namespace Counts

variable {increments others : List (Series × Nat)} {s : Series}

/-- **What increments add** to the count of a series. -/
def gain (increments : List (Series × Nat)) (s : Series) : Nat :=
  (increments.map fun (t, n) => if t = s then n else 0).sum

@[simp] theorem gain_nil : gain [] s = 0 := rfl

@[simp] theorem gain_cons (t : Series) (n : Nat) :
    gain ((t, n) :: increments) s = (if t = s then n else 0) + gain increments s := by
  simp [gain]

@[simp] theorem gain_append :
    gain (increments ++ others) s = gain increments s + gain others s := by
  simp [gain]

theorem gain_eq_zero (h : ∀ increment ∈ increments, increment.1 ≠ s) : gain increments s = 0 := by
  induction increments with
  | nil => rfl
  | cons increment rest ih =>
    obtain ⟨hfirst, hrest⟩ := List.forall_mem_cons.mp h
    rw [gain_cons, if_neg hfirst, ih hrest]

theorem count_addAll (c : Counts) (increments : List (Series × Nat)) (s : Series) :
    (c.addAll increments).count s = c.count s + gain increments s := by
  induction increments generalizing c with
  | nil => rfl
  | cons increment rest ih =>
    obtain ⟨t, n⟩ := increment
    have hrest := ih (c.add t n)
    rw [addAll] at hrest ⊢
    rw [List.foldl_cons, hrest, gain_cons]
    split_ifs with hts
    · rw [hts, count_add_self, Nat.add_assoc]
    · rw [count_add_of_ne _ _ (Ne.symm hts), Nat.zero_add]

end Counts

/-! ### The series of compilations and runs -/

namespace Series

/-- The series of compilations that ended in one way. -/
def compilations (status region : String) : Series :=
  ⟨"compiler_compilations_total", [("region", region), ("status", status)]⟩

/-- The series of compilations that took their time. -/
def compilationTimes (region : String) : Series :=
  ⟨"compiler_duration_seconds_count", [("region", region)]⟩

/-- The series of compiled rules. -/
def stepCounts (region : String) : Series :=
  ⟨"compiler_steps_count_count", [("region", region)]⟩

/-- The series of compiled rules in a bucket. -/
def stepBucket (bound region : String) : Series :=
  ⟨"compiler_steps_count_bucket", [("le", bound), ("region", region)]⟩

/-- The series of runs that ended in one way. -/
def runs (how : RunEnd) (region : String) : Series :=
  ⟨"rule_executions_total", [("outcome", how.label), ("region", region)]⟩

/-- The series of runs that took their time. -/
def runTimes (region : String) : Series :=
  ⟨"rule_execution_duration_seconds_count", [("region", region)]⟩

end Series

theorem RunEnd.label_inj {how how' : RunEnd} : how.label = how'.label ↔ how = how' := by
  cases how <;> cases how' <;> simp [RunEnd.label]

namespace Event

open Counts

variable {e : Event} {label region : String}

/-- **Whatever is counted is counted in the region in force.** -/
theorem region_mem_of_increments {increment : Series × Nat}
    (h : increment ∈ e.increments label) : ("region", label) ∈ increment.1.labels := by
  cases e with
  | compiled steps =>
    simp only [increments, compilation, List.mem_append, List.mem_cons, List.not_mem_nil,
      or_false, List.mem_map] at h
    rcases h with ((rfl | rfl) | rfl | rfl) | ⟨bound, -, rfl⟩ <;> simp
  | refused | emitted | executed how | answered method route status | crashed method route kind =>
    simp only [increments, compilation, answering, List.mem_cons, List.not_mem_nil, or_false] at h
    rcases h with rfl | rfl | rfl <;> simp

/-! ### What an event adds to each series -/

/-- The label of how a compilation ended. -/
def status? : Event → Option String
  | compiled _ => some "success"
  | refused => some "error"
  | _ => none

/-- The number of steps of a rule that was compiled. -/
def steps? : Event → Option Nat
  | compiled steps => some steps
  | _ => none

/-- How a run ended. -/
def runEnd? : Event → Option RunEnd
  | executed how => some how
  | _ => none

/-- The buckets of a rule are those with a bound that its steps do not exceed. -/
theorem count_buckets {bound : Nat} (hbound : bound ∈ stepBounds) (steps : Nat) :
    (buckets steps).count s!"{bound}.0" = if steps ≤ bound then 1 else 0 := by
  have hinj : ∀ other ∈ stepBounds, s!"{other}.0" = s!"{bound}.0" ↔ other = bound := by
    revert bound
    decide
  have honce : stepBounds.count bound = 1 := by
    revert bound
    decide
  have hlast : ("+Inf" == s!"{bound}.0") = false := by
    revert bound
    decide
  have hcount : (buckets steps).count s!"{bound}.0" =
      stepBounds.countP fun other => other == bound && decide (steps ≤ bound) := by
    rw [buckets, List.count_append, List.count_singleton, hlast, List.count_eq_countP,
      List.countP_map, List.countP_filter]
    refine List.countP_congr fun other hother => ?_
    simp only [Function.comp_apply, Bool.and_eq_true, beq_iff_eq, decide_eq_true_eq,
      hinj other hother]
    exact and_congr_right fun heq => by rw [heq]
  rw [hcount]
  split_ifs with hsteps
  · simp only [hsteps, decide_true, Bool.and_true]
    exact honce
  · simp [hsteps]

/-- Every rule is in the bucket without a bound. -/
theorem count_buckets_last (steps : Nat) : (buckets steps).count "+Inf" = 1 := by
  have hbounds : ∀ bound ∈ stepBounds, s!"{bound}.0" ≠ "+Inf" := by decide
  rw [buckets, List.count_append, List.count_singleton_self, List.count_eq_zero_of_not_mem]
  intro hmem
  obtain ⟨bound, hbound, heq⟩ := List.mem_map.mp hmem
  exact hbounds bound (List.mem_of_mem_filter hbound) heq

theorem gain_buckets (bounds : List String) (bound : String) :
    gain (bounds.map fun bound =>
        (⟨"compiler_steps_count_bucket", [("le", bound), ("region", label)]⟩, 1))
      (.stepBucket bound region) = if label = region then bounds.count bound else 0 := by
  induction bounds with
  | nil => simp
  | cons first rest ih =>
    rw [List.map_cons, gain_cons, ih, List.count_cons]
    by_cases hregion : label = region
    · by_cases hfirst : first = bound
      · simp [Series.stepBucket, hregion, hfirst, Nat.add_comm]
      · simp [Series.stepBucket, hfirst]
    · simp [Series.stepBucket, hregion]

theorem gain_buckets_of_name (bounds : List String) {s : Series}
    (h : s.name ≠ "compiler_steps_count_bucket") :
    gain (bounds.map fun bound =>
      (⟨"compiler_steps_count_bucket", [("le", bound), ("region", label)]⟩, 1)) s = 0 := by
  refine gain_eq_zero fun increment hincrement => ?_
  obtain ⟨bound, -, rfl⟩ := List.mem_map.mp hincrement
  rintro rfl
  exact h rfl

theorem gain_compilations (e : Event) (status : String) :
    gain (e.increments label) (.compilations status region) =
      if label = region ∧ e.status? = some status then 1 else 0 := by
  cases e <;>
    simp [increments, compilation, answering, Series.compilations, gain_buckets_of_name, status?]

theorem gain_compilationTimes (e : Event) :
    gain (e.increments label) (.compilationTimes region) =
      if label = region ∧ e.status?.isSome then 1 else 0 := by
  cases e <;>
    simp [increments, compilation, answering, Series.compilationTimes, gain_buckets_of_name,
      status?]

theorem gain_stepCounts (e : Event) :
    gain (e.increments label) (.stepCounts region) =
      if label = region ∧ e.steps?.isSome then 1 else 0 := by
  cases e <;>
    simp [increments, compilation, answering, Series.stepCounts, gain_buckets_of_name, steps?]

theorem gain_stepBucket (e : Event) (bound : String) :
    gain (e.increments label) (.stepBucket bound region) =
      if label = region then e.steps?.elim 0 fun steps => (buckets steps).count bound else 0 := by
  cases e with
  | compiled steps =>
    rw [increments, gain_append, gain_append, gain_buckets]
    simp [compilation, Series.stepBucket, steps?]
  | _ => simp [increments, compilation, answering, Series.stepBucket, steps?]

theorem gain_runs (e : Event) (how : RunEnd) :
    gain (e.increments label) (.runs how region) =
      if label = region ∧ e.runEnd? = some how then 1 else 0 := by
  cases e <;>
    simp [increments, compilation, answering, Series.runs, gain_buckets_of_name, runEnd?,
      RunEnd.label_inj, and_comm]

theorem gain_runTimes (e : Event) :
    gain (e.increments label) (.runTimes region) =
      if label = region ∧ e.runEnd?.isSome then 1 else 0 := by
  cases e <;>
    simp [increments, compilation, answering, Series.runTimes, gain_buckets_of_name, runEnd?]

end Event

/-! ### What is counted -/

/-- The event of a compilation, by what it comes to. -/
def Event.ofCompilation : Except RuleError CompiledRule → Event
  | .ok c => .compiled c.rule.steps.length
  | .error _ => .refused

/-- How a run ended, by what it comes to. A run that is left with a fault is not counted. -/
def RunEnd.ofRun? : Except RuleError Outcome → Option RunEnd
  | .ok o => some o.runEnd
  | .error (.run _) => some .internalError
  | .error _ => none

/-- The event of an emission, by what it comes to. Only what was emitted is counted. -/
def Event.ofEmission? : Except RuleError Program → Option Event
  | .ok _ => some .emitted
  | .error _ => none

/-- Counting several events. -/
def Meter.recordAll (m : Meter) (events : List Event) : Meter :=
  events.foldl record m

theorem Meter.recordAll_eq (m : Meter) (events : List Event) :
    m.recordAll events =
      { m with counts := m.counts.addAll (events.flatMap (Event.increments m.regionLabel)) } := by
  induction events generalizing m with
  | nil => rfl
  | cons e rest ih =>
    have hrest := ih (m.record e)
    rw [recordAll] at hrest ⊢
    rw [List.foldl_cons, hrest, List.flatMap_cons, Counts.addAll, Counts.addAll, List.foldl_append]
    rfl

namespace Metered

theorem run_compilation (result : Except RuleError CompiledRule) (m : Meter) :
    (compilation result).run.run m = (result, m.record (.ofCompilation result)) := by
  cases result <;> rfl

/-- What is done after a compilation counts on, unless the compilation fails. -/
theorem run_compilation_bind {α : Type} (result : Except RuleError CompiledRule)
    (f : CompiledRule → Metered RuleError α) (m : Meter) :
    (compilation result >>= f).run.run m =
      match result with
      | .ok c => (f c).run.run (m.record (.compiled c.rule.steps.length))
      | .error e => (.error e, m.record .refused) := by
  cases result <;> rfl

theorem run_execute (c : CompiledRule) (inputs : Value) (limit : Int) (m : Meter) :
    (execute c inputs limit).run.run m = (c.execute inputs limit,
      m.recordAll ((RunEnd.ofRun? (c.execute inputs limit)).map Event.executed).toList) := by
  rw [execute]
  rcases c.execute inputs limit with e | o
  · cases e <;> rfl
  · rfl

theorem run_emit (c : CompiledRule) (limit : Int) (m : Meter) :
    (emit c limit).run.run m = (c.emit limit,
      m.recordAll (Event.ofEmission? (c.emit limit)).toList) := by
  rw [emit]
  cases c.emit limit <;> rfl

end Metered

/-! ### Calls -/

/-- The label of a region. -/
def regionLabel (region : String) : String :=
  ({ region } : Meter).regionLabel

/-- **A call** of a service. -/
inductive Call where
  /-- To compile a document. -/
  | compile (document : Value) (mostSteps : Option Int) (registry : Registry)
  /-- To compile a rule. -/
  | compileRule (r : Rule) (registry : Registry)
  /-- To run a compiled rule. -/
  | execute (c : CompiledRule) (inputs : Value) (limit : Int)
  /-- To run a rule, which is compiled first. -/
  | executeRule (r : Rule) (inputs : Value) (limit : Int) (registry : Registry)
  /-- To emit the program of a compiled rule. -/
  | emit (c : CompiledRule) (limit : Int)
  /-- To emit the program of a rule, which is compiled first. -/
  | emitRule (r : Rule) (limit : Int) (registry : Registry)
  /-- To change the region. -/
  | setRegion (name : String)

namespace Call

open Counts

/-- **What a call leaves** on a meter. -/
def perform (m : Meter) : Call → Meter
  | compile document mostSteps registry =>
    ((Metered.compile document mostSteps registry).run.run m).2
  | compileRule r registry => ((Metered.compileRule r registry).run.run m).2
  | execute c inputs limit => ((Metered.execute c inputs limit).run.run m).2
  | executeRule r inputs limit registry =>
    ((Metered.executeRule r inputs limit registry).run.run m).2
  | emit c limit => ((Metered.emit c limit).run.run m).2
  | emitRule r limit registry => ((Metered.emitRule r limit registry).run.run m).2
  | setRegion name => { m with region := name }

/-- What several calls leave on a meter. -/
def performAll (m : Meter) (calls : List Call) : Meter :=
  calls.foldl perform m

/-- The region after a call. -/
def regionAfter (region : String) : Call → String
  | setRegion name => name
  | _ => region

/-- **The calls with the labels of the regions in force.** -/
def history (region : String) : List Call → List (String × Call)
  | [] => []
  | call :: rest => (regionLabel region, call) :: history (call.regionAfter region) rest

/-! ### What happens in a call -/

/-- What a call compiles, if anything: what that comes to. -/
def compilation? : Call → Option (Except RuleError CompiledRule)
  | compile document mostSteps registry => some do (← Rule.read document mostSteps).compile registry
  | compileRule r registry | executeRule r _ _ registry | emitRule r _ registry =>
    some (r.compile registry)
  | _ => none

/-- What a call runs, if anything: what that comes to. -/
def run? : Call → Option (Except RuleError Outcome)
  | execute c inputs limit => some (c.execute inputs limit)
  | executeRule r inputs limit registry =>
    (r.compile registry).toOption.map fun c => c.execute inputs limit
  | _ => none

/-- What a call emits, if anything: what that comes to. -/
def emission? : Call → Option (Except RuleError Program)
  | emit c limit => some (c.emit limit)
  | emitRule r limit registry => (r.compile registry).toOption.map fun c => c.emit limit
  | _ => none

/-- **A run is left with a fault**, neither with an outcome nor with an inconsistency. -/
def faults (call : Call) : Bool :=
  match call.run? with
  | some (.error (.run _)) => false
  | some (.error _) => true
  | _ => false

/-- How the run of a call ends, if it is not left with a fault. -/
def runEnd? (call : Call) : Option RunEnd :=
  call.run?.bind RunEnd.ofRun?

/-- **What is counted of a call.** -/
def events (call : Call) : List Event :=
  (call.compilation?.map Event.ofCompilation).toList ++ (call.runEnd?.map Event.executed).toList ++
    (call.emission?.bind Event.ofEmission?).toList

/-- **What a call adds** to which series, in a region. -/
def added (label : String) (call : Call) : List (Series × Nat) :=
  call.events.flatMap (Event.increments label)

/-- A call leaves on a meter what is counted of it. -/
theorem perform_eq_recordAll (m : Meter) (call : Call) :
    call.perform m = { m.recordAll call.events with region := call.regionAfter m.region } := by
  cases call with
  | compile document mostSteps registry =>
    rw [perform, Metered.compile, Metered.run_compilation]
    rfl
  | compileRule r registry =>
    rw [perform, Metered.compileRule, Metered.run_compilation]
    rfl
  | execute c inputs limit =>
    rw [perform, Metered.run_execute]
    simp only [events, compilation?, runEnd?, run?, emission?, Option.bind_some]
    cases RunEnd.ofRun? (c.execute inputs limit) <;> rfl
  | executeRule r inputs limit registry =>
    rw [perform, Metered.executeRule, Metered.compileRule, Metered.run_compilation_bind]
    simp only [events, compilation?, runEnd?, run?, emission?]
    cases r.compile registry with
    | error e => rfl
    | ok c =>
      dsimp only
      rw [Metered.run_execute]
      simp only [Except.toOption, Option.map_some, Option.bind_some]
      cases RunEnd.ofRun? (c.execute inputs limit) <;> rfl
  | emit c limit =>
    rw [perform, Metered.run_emit]
    simp only [events, compilation?, runEnd?, run?, emission?, Option.bind_some]
    cases Event.ofEmission? (c.emit limit) <;> rfl
  | emitRule r limit registry =>
    rw [perform, Metered.emitRule, Metered.compileRule, Metered.run_compilation_bind]
    simp only [events, compilation?, runEnd?, run?, emission?]
    cases r.compile registry with
    | error e => rfl
    | ok c =>
      dsimp only
      rw [Metered.run_emit]
      simp only [Except.toOption, Option.map_some, Option.bind_some]
      cases Event.ofEmission? (c.emit limit) <;> rfl
  | setRegion name => rfl

/-- **What a call adds to the counts.** -/
theorem count_perform (m : Meter) (call : Call) (s : Series) :
    (call.perform m).counts.count s = m.counts.count s + gain (call.added m.regionLabel) s := by
  rw [perform_eq_recordAll, Meter.recordAll_eq]
  exact count_addAll m.counts _ s

theorem region_perform (m : Meter) (call : Call) :
    (call.perform m).region = call.regionAfter m.region := by
  rw [perform_eq_recordAll]

/-- **What several calls add to a count**, where each of them adds one or nothing. -/
theorem count_performAll {s : Series} {counted : String × Call → Bool} (m : Meter)
    (calls : List Call) (h : ∀ x ∈ history m.region calls,
      gain (x.2.added x.1) s = if counted x then 1 else 0) :
    (performAll m calls).counts.count s =
      m.counts.count s + (history m.region calls).countP counted := by
  induction calls generalizing m with
  | nil => rfl
  | cons call rest ih =>
    obtain ⟨hfirst, hrest⟩ := List.forall_mem_cons.mp h
    have hregion := region_perform m call
    have hcount : (call.perform m).counts.count s =
        m.counts.count s + if counted (m.regionLabel, call) then 1 else 0 :=
      (count_perform m call s).trans (congrArg _ hfirst)
    rw [performAll, List.foldl_cons, ← performAll, ih (call.perform m) (hregion ▸ hrest), hcount,
      history, List.countP_cons, hregion, Nat.add_assoc]
    exact congrArg _ (Nat.add_comm _ _)

/-! ### What a call adds to each series -/

variable {label region : String} {s : Series} {q : Event → Bool}

theorem gain_added (call : Call)
    (h : ∀ e : Event, gain (e.increments label) s = if label = region ∧ q e then 1 else 0) :
    gain (call.added label) s = if label = region then call.events.countP q else 0 := by
  rw [added]
  induction call.events with
  | nil => simp
  | cons e rest ih =>
    rw [List.flatMap_cons, gain_append, h, ih, List.countP_cons]
    by_cases hregion : label = region
    · simp [hregion, Nat.add_comm]
    · simp [hregion]

theorem countP_toList_map {α : Type} (happened : Option α) (f : α → Event) :
    (happened.map f).toList.countP q = if happened.any (q ∘ f) then 1 else 0 := by
  cases happened with
  | none => rfl
  | some a => simp [List.countP_cons]

theorem countP_emission (call : Call) (hemission : q .emitted = false) :
    (call.emission?.bind Event.ofEmission?).toList.countP q = 0 := by
  rw [List.countP_eq_zero]
  intro e he
  obtain ⟨result, -, hresult⟩ := Option.bind_eq_some_iff.mp (Option.mem_toList.mp he)
  cases result with
  | error _ => cases hresult
  | ok p =>
    obtain rfl := Option.some.inj hresult
    simp [hemission]

/-- **A series of compilations**: a call adds to it by what it compiles. -/
theorem gain_added_compilation (call : Call) {kind : Except RuleError CompiledRule → Bool}
    (h : ∀ e : Event, gain (e.increments label) s = if label = region ∧ q e then 1 else 0)
    (hkind : ∀ result, q (.ofCompilation result) = kind result)
    (hrun : ∀ how, q (.executed how) = false) (hemission : q .emitted = false) :
    gain (call.added label) s =
      if label == region && call.compilation?.any kind then 1 else 0 := by
  have hevents : call.events.countP q = if call.compilation?.any kind then 1 else 0 := by
    rw [events, List.countP_append, List.countP_append, countP_toList_map, countP_toList_map,
      countP_emission call hemission]
    simp [Function.comp_def, hkind, hrun]
  rw [gain_added call h, hevents]
  by_cases hregion : label = region <;> simp [hregion]

/-- **A series of runs**: a call adds to it by how its run ends. -/
theorem gain_added_run (call : Call) {kind : RunEnd → Bool}
    (h : ∀ e : Event, gain (e.increments label) s = if label = region ∧ q e then 1 else 0)
    (hkind : ∀ how, q (.executed how) = kind how)
    (hcompilation : ∀ result, q (.ofCompilation result) = false) (hemission : q .emitted = false) :
    gain (call.added label) s =
      if label == region && call.runEnd?.any kind then 1 else 0 := by
  have hevents : call.events.countP q = if call.runEnd?.any kind then 1 else 0 := by
    rw [events, List.countP_append, List.countP_append, countP_toList_map, countP_toList_map,
      countP_emission call hemission]
    simp [Function.comp_def, hkind, hcompilation]
  rw [gain_added call h, hevents]
  by_cases hregion : label = region <;> simp [hregion]

/-- A call adds only to series of the region in force. -/
theorem gain_added_of_not_mem (call : Call) (h : ("region", label) ∉ s.labels) :
    gain (call.added label) s = 0 := by
  refine gain_eq_zero fun increment hincrement => ?_
  obtain ⟨e, -, he⟩ := List.mem_flatMap.mp hincrement
  rintro rfl
  exact h (Event.region_mem_of_increments he)

/-! ### Calls of a kind -/

/-- A call compiles something. -/
def compiles (call : Call) : Bool :=
  call.compilation?.any fun _ => true

/-- A call compiles something, and that goes through. -/
def succeeds (call : Call) : Bool :=
  call.compilation?.any (·.isOk)

/-- A call compiles something, and that fails. -/
def fails (call : Call) : Bool :=
  call.compilation?.any (!·.isOk)

/-- A call compiles a rule of at most so many steps. -/
def succeedsWithin (bound : Nat) (call : Call) : Bool :=
  call.compilation?.any fun result => result.toOption.any (·.rule.steps.length ≤ bound)

/-- A call runs something. -/
def runs (call : Call) : Bool :=
  call.run?.isSome

/-- The run of a call ends in a way. -/
def ends (how : RunEnd) (call : Call) : Bool :=
  call.runEnd?.any (· == how)

theorem any_runEnd? (call : Call) :
    (call.runEnd?.any fun _ => true) = (call.runs && !call.faults) := by
  rw [runEnd?, runs, faults]
  rcases call.run? with _ | e | o
  · rfl
  · cases e <;> rfl
  · rfl

/-- **The number of calls** of a kind in a region. -/
def tally (calls : List (String × Call)) (region : String) (kind : Call → Bool) : Nat :=
  calls.countP fun x => x.1 == region && kind x.2

/-- A run that is not left with a fault ends in one of three ways. -/
theorem tally_ends (calls : List (String × Call)) (region : String) :
    tally calls region (ends .success) + (tally calls region (ends .failure) +
        tally calls region (ends .internalError)) =
      tally calls region fun call => call.runs && !call.faults := by
  simp only [tally, ends, ← any_runEnd?]
  induction calls with
  | nil => rfl
  | cons x rest ih =>
    simp only [List.countP_cons, ← ih]
    rcases x.2.runEnd? with _ | how
    · simp
    · cases how <;> simp +arith

/-- **What the counts are after some calls**: for each series, what they were before and the number
of the calls that belong to it. -/
structure Counted (calls : List (String × Call)) (before after : Counts) : Prop where
  /-- A compilation that goes through is counted as a success. -/
  successes : ∀ region, after.count (.compilations "success" region) =
    before.count (.compilations "success" region) + tally calls region succeeds
  /-- A compilation that fails is counted as an error. -/
  errors : ∀ region, after.count (.compilations "error" region) =
    before.count (.compilations "error" region) + tally calls region fails
  /-- Every compilation is timed. -/
  compilationTimes : ∀ region, after.count (.compilationTimes region) =
    before.count (.compilationTimes region) + tally calls region compiles
  /-- The steps of every compiled rule are looked at. -/
  stepCounts : ∀ region, after.count (.stepCounts region) =
    before.count (.stepCounts region) + tally calls region succeeds
  /-- A compiled rule is in the buckets with a bound that its steps do not exceed. -/
  stepBuckets : ∀ region, ∀ bound ∈ Event.stepBounds,
    after.count (.stepBucket s!"{bound}.0" region) =
      before.count (.stepBucket s!"{bound}.0" region) + tally calls region (succeedsWithin bound)
  /-- A compiled rule is in the bucket without a bound. -/
  lastBucket : ∀ region, after.count (.stepBucket "+Inf" region) =
    before.count (.stepBucket "+Inf" region) + tally calls region succeeds
  /-- A run is counted by how it ends. -/
  runs : ∀ region how, after.count (.runs how region) =
    before.count (.runs how region) + tally calls region (ends how)
  /-- Of all ways to end, every run counts for one, unless it is left with a fault. -/
  allRuns : ∀ region,
    ([RunEnd.success, .failure, .internalError].map fun how =>
        after.count (.runs how region)).sum =
      ([RunEnd.success, .failure, .internalError].map fun how =>
        before.count (.runs how region)).sum +
        tally calls region fun call => call.runs && !call.faults
  /-- Every run is timed, unless it is left with a fault. -/
  runTimes : ∀ region, after.count (.runTimes region) =
    before.count (.runTimes region) + tally calls region fun call => call.runs && !call.faults
  /-- A series of a region that no call is made in is left as it is. -/
  otherRegions : ∀ s : Series, (∀ x ∈ calls, ("region", x.1) ∉ s.labels) →
    after.count s = before.count s

section

variable (m : Meter) (calls : List Call)

/-- A series of compilations after some calls. -/
theorem count_compilations {kind : Except RuleError CompiledRule → Bool}
    (h : ∀ label, ∀ e : Event,
      gain (e.increments label) s = if label = region ∧ q e then 1 else 0)
    (hkind : ∀ result, q (.ofCompilation result) = kind result)
    (hrun : ∀ how, q (.executed how) = false) (hemission : q .emitted = false) :
    (performAll m calls).counts.count s = m.counts.count s +
      tally (history m.region calls) region fun call => call.compilation?.any kind :=
  count_performAll m calls fun x _ =>
    gain_added_compilation x.2 (h x.1) hkind hrun hemission

/-- A series of runs after some calls. -/
theorem count_runs {kind : RunEnd → Bool}
    (h : ∀ label, ∀ e : Event,
      gain (e.increments label) s = if label = region ∧ q e then 1 else 0)
    (hkind : ∀ how, q (.executed how) = kind how)
    (hcompilation : ∀ result, q (.ofCompilation result) = false) (hemission : q .emitted = false) :
    (performAll m calls).counts.count s = m.counts.count s +
      tally (history m.region calls) region fun call => call.runEnd?.any kind :=
  count_performAll m calls fun x _ =>
    gain_added_run x.2 (h x.1) hkind hcompilation hemission

/-- **Every compilation is counted, and every run that is not left with a fault.** After any calls,
with any changes of the region between them, each series of the region in force has risen by the
number of calls that belong to it, and nothing was counted in any other region. -/
theorem counted_performAll :
    Counted (history m.region calls) m.counts (performAll m calls).counts := by
  have hruns : ∀ region how, (performAll m calls).counts.count (.runs how region) =
      m.counts.count (.runs how region) +
        tally (history m.region calls) region (ends how) := fun region how =>
    count_runs (q := (·.runEnd? == some how)) m calls (fun _ e => by simp [Event.gain_runs])
      (fun how' => by simp [Event.runEnd?]) (fun result => by cases result <;> rfl) rfl
  constructor
  case successes =>
    intro region
    exact count_compilations (q := (·.status? == some "success")) m calls
      (fun _ e => by simp [Event.gain_compilations]) (fun result => by cases result <;> rfl)
      (fun _ => rfl) rfl
  case errors =>
    intro region
    exact count_compilations (q := (·.status? == some "error")) m calls
      (fun _ e => by simp [Event.gain_compilations]) (fun result => by cases result <;> rfl)
      (fun _ => rfl) rfl
  case compilationTimes =>
    intro region
    exact count_compilations (q := (·.status?.isSome)) m calls
      (fun _ e => Event.gain_compilationTimes e) (fun result => by cases result <;> rfl)
      (fun _ => rfl) rfl
  case stepCounts =>
    intro region
    exact count_compilations (q := (·.steps?.isSome)) m calls
      (fun _ e => Event.gain_stepCounts e) (fun result => by cases result <;> rfl)
      (fun _ => rfl) rfl
  case stepBuckets =>
    intro region bound hbound
    refine count_compilations (q := (·.steps?.any (· ≤ bound))) m calls (fun label e => ?_)
      (fun result => by cases result <;> rfl) (fun _ => rfl) rfl
    rw [Event.gain_stepBucket]
    cases e.steps? with
    | none => simp
    | some steps =>
      simp only [Option.elim_some, Event.count_buckets hbound, ← ite_and, Option.any_some,
        decide_eq_true_eq]
  case lastBucket =>
    intro region
    refine count_compilations (q := (·.steps?.isSome)) m calls (fun label e => ?_)
      (fun result => by cases result <;> rfl) (fun _ => rfl) rfl
    rw [Event.gain_stepBucket]
    cases e.steps? with
    | none => simp
    | some steps => simp [Event.count_buckets_last]
  case runs =>
    exact hruns
  case allRuns =>
    intro region
    simp only [List.map_cons, List.map_nil, List.sum_cons, List.sum_nil, hruns, ← tally_ends]
    omega
  case runTimes =>
    intro region
    simp only [← any_runEnd?]
    exact count_runs (q := (·.runEnd?.isSome)) m calls (fun _ e => Event.gain_runTimes e)
      (fun _ => rfl) (fun result => by cases result <;> rfl) rfl
  case otherRegions =>
    intro s hs
    have hnone : ∀ x ∈ history m.region calls,
        gain (x.2.added x.1) s = if (fun _ => false) x then 1 else 0 := fun x hx =>
      gain_added_of_not_mem x.2 (hs x hx)
    simpa using count_performAll m calls hnone

end

/-! ### A run that is not counted -/

/-- The run of a rule that compares what it is given, with an infinite number. -/
def infiniteRun : Call :=
  execute thresholdCompiled (.record [("x", .float (.infinite false))]) 1000

/-- **A run that is left with a fault is not counted**, neither by how it ends nor by its time. -/
theorem infinite_run_uncounted :
    threshold.compile Catalogue.standard = .ok thresholdCompiled ∧
      infiniteRun.run? = some (.error (.fault (.notFinite (.float (.infinite false))))) ∧
      infiniteRun.perform {} = {} ∧
      ¬∀ m : Meter, (infiniteRun.perform m).counts.count (.runTimes m.regionLabel) =
        m.counts.count (.runTimes m.regionLabel) + 1 := by
  have hrun : infiniteRun.run? =
      some (.error (.fault (.notFinite (.float (.infinite false))))) := rfl
  have hperform : infiniteRun.perform {} = {} := by
    rw [perform_eq_recordAll]
    rfl
  refine ⟨threshold_compile, hrun, hperform, fun hcounted => ?_⟩
  have hone := hcounted {}
  rw [hperform] at hone
  exact absurd hone (by decide)

end Call

end RuleFlow
