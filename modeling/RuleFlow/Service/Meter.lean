import RuleFlow.Program.Basic
import RuleFlow.Rule.Reader
import RuleFlow.Run.Engine

/-!
# Counting what happens

A service counts what it does: compilations, emissions, runs and answers. Each count belongs to a
series, which has a name and labels; one label is the region.

* `RuleFlow.Series` is a series, `RuleFlow.Counts` are the counts of series.
* `RuleFlow.Event` is something that is counted; `RuleFlow.Event.increments` says what it adds to
  which series.
* `RuleFlow.Meter` holds the counts so far and the region in force.
* `RuleFlow.Metered.compile`, `RuleFlow.Metered.execute` and `RuleFlow.Metered.emit` do what their
  names say and count it; a rule that is not compiled yet is compiled first
  (`RuleFlow.Metered.executeRule`, `RuleFlow.Metered.emitRule`).
-/

namespace RuleFlow

/-! ### Series -/

/-- **A series of counts.** -/
structure Series where
  /-- The name. -/
  name : String
  /-- The labels, in the order of their names. -/
  labels : List (String × String)
deriving Repr, DecidableEq

/-- The text of a series. -/
def Series.text (s : Series) : String :=
  s.name ++ "\x7b" ++ ",".intercalate (s.labels.map fun (name, value) => name ++ "=" ++ value) ++
    "\x7d"

/-- **Counts of series**, in the order in which they were first counted. -/
abbrev Counts := List (Series × Nat)

namespace Counts

/-- The count of a series. -/
def count (c : Counts) (s : Series) : Nat :=
  (c.lookup s).getD 0

/-- Adding to the count of a series. -/
def add : Counts → Series → Nat → Counts
  | [], s, n => [(s, n)]
  | (t, m) :: rest, s, n => if t = s then (t, m + n) :: rest else (t, m) :: add rest s n

/-- Adding to the counts of several series. -/
def addAll (c : Counts) (increments : List (Series × Nat)) : Counts :=
  increments.foldl (fun c (s, n) => c.add s n) c

/-- The counts that are not zero, by the texts of their series. -/
def told (c : Counts) : Keyed Nat :=
  (c.filter fun (_, n) => n != 0).map fun (s, n) => (s.text, n)

/-- Adding to a series raises its count. -/
theorem count_add_self (c : Counts) (s : Series) (n : Nat) :
    (c.add s n).count s = c.count s + n := by
  induction c with
  | nil => simp [add, count]
  | cons entry rest ih =>
    obtain ⟨t, m⟩ := entry
    by_cases h : t = s
    · simp [add, count, h]
    · have h' : (s == t) = false := by simpa using fun e => h e.symm
      simpa [add, count, h, List.lookup_cons, h'] using ih

/-- Adding to a series leaves the others as they are. -/
theorem count_add_of_ne (c : Counts) {s other : Series} (n : Nat) (h : other ≠ s) :
    (c.add s n).count other = c.count other := by
  induction c with
  | nil =>
    have h' : (other == s) = false := by simpa using h
    simp [add, count, List.lookup_cons, h']
  | cons entry rest ih =>
    obtain ⟨t, m⟩ := entry
    by_cases ht : t = s
    · have h' : (other == s) = false := by simpa using h
      simp [add, count, List.lookup_cons, ht, h']
    · cases ho : other == t with
      | true => simp [add, count, List.lookup_cons, ht, ho]
      | false => simpa [add, count, List.lookup_cons, ht, ho] using ih

end Counts

/-! ### Events -/

/-- **How a run ended**, as far as it is counted. -/
inductive RunEnd where
  /-- With a value. -/
  | success
  /-- With a failure. -/
  | failure
  /-- With an inconsistency. -/
  | internalError
deriving Repr, DecidableEq

/-- The label of how a run ended. -/
def RunEnd.label : RunEnd → String
  | success => "success"
  | failure => "failure"
  | internalError => "internal_error"

/-- How a run with an outcome ended. -/
def Outcome.runEnd (o : Outcome) : RunEnd :=
  if o.isSuccess then .success else .failure

/-- **Something that is counted.** -/
inductive Event where
  /-- A rule of so many steps was compiled. -/
  | compiled (steps : Nat)
  /-- A rule was not compiled. -/
  | refused
  /-- A program was emitted. -/
  | emitted
  /-- A rule was run. -/
  | executed (how : RunEnd)
  /-- A request was answered. -/
  | answered (method route : String) (status : Nat)
  /-- A request ran into a fault. -/
  | crashed (method route kind : String)
deriving Repr, DecidableEq

namespace Event

/-- The bounds of the buckets that rules are sorted into by their number of steps. -/
def stepBounds : List Nat :=
  [1, 5, 10, 25, 50, 100, 250, 500]

/-- **The labels of the buckets** of a rule: of those with a bound that its steps do not exceed,
and of the one without a bound. -/
def buckets (steps : Nat) : List String :=
  ((stepBounds.filter fun bound => decide (steps ≤ bound)).map fun bound => s!"{bound}.0") ++
    ["+Inf"]

/-- What a compilation adds, whatever it comes to. -/
def compilation (region status : String) : List (Series × Nat) :=
  [(⟨"compiler_compilations_total", [("region", region), ("status", status)]⟩, 1),
    (⟨"compiler_duration_seconds_count", [("region", region)]⟩, 1)]

/-- What an answer adds, whatever it was. -/
def answering (region method route : String) (status : Nat) : List (Series × Nat) :=
  [(⟨"http_requests_total", [("method", method), ("region", region), ("route", route),
      ("status_code", toString status)]⟩, 1),
    (⟨"http_request_duration_seconds_count", [("method", method), ("region", region),
      ("route", route)]⟩, 1)]

/-- **What an event adds** to which series, in a region. -/
def increments (region : String) : Event → List (Series × Nat)
  | compiled steps =>
    compilation region "success" ++
      [(⟨"compiler_steps_count_sum", [("region", region)]⟩, steps),
        (⟨"compiler_steps_count_count", [("region", region)]⟩, 1)] ++
      (buckets steps).map fun bound =>
        (⟨"compiler_steps_count_bucket", [("le", bound), ("region", region)]⟩, 1)
  | refused => compilation region "error"
  | emitted => [(⟨"emitter_source_bytes_count", [("region", region)]⟩, 1)]
  | executed how =>
    [(⟨"rule_executions_total", [("outcome", how.label), ("region", region)]⟩, 1),
      (⟨"rule_execution_duration_seconds_count", [("region", region)]⟩, 1)]
  | answered method route status => answering region method route status
  | crashed method route kind =>
    (⟨"http_errors_total", [("error_type", kind), ("method", method), ("region", region),
      ("route", route)]⟩, 1) :: answering region method route 500

end Event

/-! ### Meters -/

/-- **The counts so far**, and the region in force. -/
structure Meter where
  /-- The region. -/
  region : String := ""
  /-- The counts. -/
  counts : Counts := []
deriving Repr

namespace Meter

/-- The label of the region in force. -/
def regionLabel (m : Meter) : String :=
  if m.region.isEmpty then "unknown" else m.region

/-- **Counting an event.** -/
def record (m : Meter) (e : Event) : Meter :=
  { m with counts := m.counts.addAll (e.increments m.regionLabel) }

end Meter

/-- **A computation that counts** what it does. What it has counted stays counted if it fails. -/
abbrev Metered (ε α : Type) := ExceptT ε (StateM Meter) α

namespace Metered

/-- Counting an event. -/
def record {ε : Type} (e : Event) : Metered ε Unit :=
  modify fun m => m.record e

/-- Counting a compilation, whatever it comes to. -/
def compilation (result : Except RuleError CompiledRule) : Metered RuleError CompiledRule := do
  match result with
  | .ok c => do
    record (.compiled c.rule.steps.length)
    return c
  | .error e => do
    record .refused
    throw e

/-- **Compiling a document**, counted. -/
def compile (document : Value) (mostSteps : Option Int)
    (registry : Registry := Catalogue.standard) : Metered RuleError CompiledRule :=
  compilation (do (← Rule.read document mostSteps).compile registry)

/-- **Compiling a rule**, counted. -/
def compileRule (r : Rule) (registry : Registry := Catalogue.standard) :
    Metered RuleError CompiledRule :=
  compilation (r.compile registry)

/-- **Running a compiled rule**, counted: a run that ends with an outcome or with an inconsistency
is, one that runs into a fault is not. -/
def execute (c : CompiledRule) (inputs : Value) (limit : Int) : Metered RuleError Outcome := do
  match c.execute inputs limit with
  | .ok o => do
    record (.executed o.runEnd)
    return o
  | .error (.run e) => do
    record (.executed .internalError)
    throw (.run e)
  | .error e => throw e

/-- Running a rule that is not compiled: it is compiled first, which is counted, too. -/
def executeRule (r : Rule) (inputs : Value) (limit : Int)
    (registry : Registry := Catalogue.standard) : Metered RuleError Outcome := do
  execute (← compileRule r registry) inputs limit

/-- **Emitting the program of a rule**, counted. -/
def emit (c : CompiledRule) (limit : Int) : Metered RuleError Program := do
  match c.emit limit with
  | .ok p => do
    record .emitted
    return p
  | .error e => throw e

/-- Emitting the program of a rule that is not compiled: it is compiled first, which is counted,
too. -/
def emitRule (r : Rule) (limit : Int) (registry : Registry := Catalogue.standard) :
    Metered RuleError Program := do
  emit (← compileRule r registry) limit

end Metered

end RuleFlow
