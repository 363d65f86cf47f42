import RuleFlow.Proofs.Run.Conditions

/-!
# Decisions of branches

The conditions of a branch are joined from left to right: none binds tighter than another, and none
is left out, whatever those before it have decided. This file says without the loop which target a
run goes on at.

## What decides

A condition that is joined by `and` can only take the truth of those before it away, one that is
joined by `or` can only give it. So the last condition joined by `or` that is true decides, or the
first condition of all, provided that every condition behind it that is joined by `and` is true
(`RuleFlow.CompiledRule.Settled`). That the first condition joins nothing, and every other one
something, was checked when the rule was compiled.

* `RuleFlow.CompiledRule.exists_joined_of_joining` is the induction, on the conditions behind the
  first.
* `RuleFlow.Rule.branch_decides` is the result, for every branch of a compiled rule and in every
  context.
-/

namespace RuleFlow

namespace CompiledRule

variable {c : CompiledRule} {context : Context} {s : Step} {condition : Condition}
  {conditions rest : List Condition}

/-! ### Chains of conditions -/

/-- **Truth is kept** by conditions of which all that are joined by `and` are true. -/
def Keeps (c : CompiledRule) (context : Context) (rest : List Condition) : Prop :=
  ∀ later ∈ rest, later.combinator = some .and → c.holds context later = .ok true

/-- **Truth is given** by a condition that is true and joined by `or`, and kept behind it. -/
def Gives (c : CompiledRule) (context : Context) (rest : List Condition) : Prop :=
  ∃ before condition after, rest = before ++ condition :: after ∧
    condition.combinator = some .or ∧ c.holds context condition = .ok true ∧
    c.Keeps context after

theorem keeps_cons_iff :
    c.Keeps context (condition :: rest) ↔
      (condition.combinator = some .and → c.holds context condition = .ok true) ∧
        c.Keeps context rest :=
  List.forall_mem_cons

theorem gives_cons_iff :
    c.Gives context (condition :: rest) ↔
      (condition.combinator = some .or ∧ c.holds context condition = .ok true ∧
        c.Keeps context rest) ∨ c.Gives context rest := by
  constructor
  · rintro ⟨before, other, after, hsplit, hor, htrue, hkeeps⟩
    cases before with
    | nil =>
      obtain ⟨rfl, rfl⟩ := List.cons.inj hsplit
      exact .inl ⟨hor, htrue, hkeeps⟩
    | cons first before =>
      obtain ⟨rfl, rfl⟩ := List.cons.inj hsplit
      exact .inr ⟨before, other, after, rfl, hor, htrue, hkeeps⟩
  · rintro (⟨hor, htrue, hkeeps⟩ | ⟨before, other, after, rfl, hor, htrue, hkeeps⟩)
    · exact ⟨[], condition, rest, rfl, hor, htrue, hkeeps⟩
    · exact ⟨condition :: before, other, after, rfl, hor, htrue, hkeeps⟩

/-- The truth of two truth values joined. -/
def joinedTruth : Combinator → Bool → Bool → Bool
  | .and => and
  | .or => or

theorem join_bool (combinator : Combinator) (before b : Bool) :
    combinator.join (.bool before) (.bool b) = .bool (joinedTruth combinator before b) := by
  cases combinator <;> cases before <;> rfl

/-- **The conditions behind the first** keep the truth of those before them, or give it anew. -/
theorem exists_joined_of_joining
    (hholds : ∀ condition ∈ rest, ∃ b, c.holds context condition = .ok b)
    (hjoins : ∀ condition ∈ rest, condition.combinator ≠ none) (before : Bool) :
    ∃ b, c.joined context (.bool before) rest = .ok (.bool b) ∧
      (b = true ↔ before = true ∧ c.Keeps context rest ∨ c.Gives context rest) := by
  induction rest generalizing before with
  | nil => exact ⟨before, rfl, by simp [Keeps, Gives]⟩
  | cons condition rest ih =>
    obtain ⟨⟨b, hb⟩, hholds⟩ := List.forall_mem_cons.mp hholds
    obtain ⟨hjoin, hjoins⟩ := List.forall_mem_cons.mp hjoins
    obtain ⟨combinator, hcombinator⟩ := Option.ne_none_iff_exists'.mp hjoin
    obtain ⟨b', hb', hiff⟩ := ih hholds hjoins (joinedTruth combinator before b)
    refine ⟨b', by simpa only [joined, hb, hcombinator, join_bool] using hb', hiff.trans ?_⟩
    rw [keeps_cons_iff, gives_cons_iff, hcombinator, hb]
    cases combinator with
    | and => cases before <;> cases b <;> simp [joinedTruth]
    | or => cases before <;> cases b <;> simp [joinedTruth]

/-! ### Branches -/

/-- **A branch is settled**: a condition is true that is the first one or joined by `or`, and every
condition behind it that is joined by `and` is true. -/
def Settled (c : CompiledRule) (context : Context) (conditions : List Condition) : Prop :=
  ∃ before condition after, conditions = before ++ condition :: after ∧
    (before = [] ∨ condition.combinator = some .or) ∧
    c.holds context condition = .ok true ∧
    ∀ later ∈ after, later.combinator = some .and → c.holds context later = .ok true

/-- A branch is settled by its first condition, or by one of the others. -/
theorem settled_cons_iff :
    c.Settled context (condition :: rest) ↔
      (c.holds context condition = .ok true ∧ c.Keeps context rest) ∨ c.Gives context rest := by
  constructor
  · rintro ⟨before, other, after, hsplit, hfrom, htrue, hkeeps⟩
    cases before with
    | nil =>
      obtain ⟨rfl, rfl⟩ := List.cons.inj hsplit
      exact .inl ⟨htrue, hkeeps⟩
    | cons first before =>
      obtain ⟨rfl, rfl⟩ := List.cons.inj hsplit
      exact .inr ⟨before, other, after, rfl, hfrom.resolve_left nofun, htrue, hkeeps⟩
  · rintro (⟨htrue, hkeeps⟩ | ⟨before, other, after, rfl, hor, htrue, hkeeps⟩)
    · exact ⟨[], condition, rest, rfl, .inl rfl, htrue, hkeeps⟩
    · exact ⟨condition :: before, other, after, rfl, .inr hor, htrue, hkeeps⟩

/-- **The truth of all conditions of a branch**, where the first joins nothing and every other one
joins something. -/
theorem exists_joined_of_holds (hfirst : condition.combinator = none)
    (hjoins : ∀ condition ∈ rest, condition.combinator ≠ none)
    (hholds : ∀ each ∈ condition :: rest, ∃ b, c.holds context each = .ok b) (before : Value) :
    ∃ b, c.joined context before (condition :: rest) = .ok (.bool b) ∧
      (b = true ↔ c.Settled context (condition :: rest)) := by
  obtain ⟨⟨first, hb⟩, hholds⟩ := List.forall_mem_cons.mp hholds
  obtain ⟨b, hjoined, hiff⟩ := exists_joined_of_joining hholds hjoins first
  refine ⟨b, by simpa only [joined, hb, hfirst] using hjoined, hiff.trans ?_⟩
  rw [settled_cons_iff, hb]
  simp

/-- **What a branch decides** in a context. -/
structure Decides (c : CompiledRule) (context : Context) (s : Step) (conditions : List Condition)
    (onTrue onFalse : Option String) : Prop where
  /-- The first condition that halts halts the run, whatever the truth of those before it. -/
  halts : ∀ before condition after halt, conditions = before ++ condition :: after →
    (∀ earlier ∈ before, ∃ b, c.holds context earlier = .ok b) →
    c.holds context condition = .error halt → c.perform context s = .error halt
  /-- If no condition halts and the branch is settled, the run goes on where it is true. -/
  onTrue : (∀ condition ∈ conditions, ∃ b, c.holds context condition = .ok b) →
    c.Settled context conditions → c.perform context s = .ok (.onward context onTrue)
  /-- If no condition halts and the branch is not settled, the run goes on where it is false. -/
  onFalse : (∀ condition ∈ conditions, ∃ b, c.holds context condition = .ok b) →
    ¬c.Settled context conditions → c.perform context s = .ok (.onward context onFalse)

end CompiledRule

namespace Rule

variable {r : Rule} {registry : Registry} {c : CompiledRule} {s : Step}
  {conditions : List Condition} {onTrue onFalse : Option String}

/-- **Branches decide by their last turn to truth.** Whatever the context, a branch of a compiled
rule halts with the first of its conditions that does; if none does, the run goes on at the one
target if the branch is settled, and at the other if not. -/
theorem branch_decides (h : r.compile registry = .ok c) (hs : s ∈ r.steps)
    (haction : s.action = .branch conditions onTrue onFalse) (context : Context) :
    c.Decides context s conditions onTrue onFalse := by
  obtain ⟨a, hcompilation⟩ := exists_compilation h
  obtain ⟨first, rest, rfl, hfirst, hjoins⟩ :=
    Step.combinators_of_check haction (hcompilation.combinators s hs)
  have hperform := c.perform_branch context haction
  refine ⟨fun before condition after halt hsplit hbefore hhalt => ?_, fun hholds hsettled => ?_,
    fun hholds hsettled => ?_⟩
  · rw [hperform, hsplit, CompiledRule.joined_eq_error_of_first hbefore hhalt]
    rfl
  · obtain ⟨b, hb, hiff⟩ := CompiledRule.exists_joined_of_holds hfirst hjoins hholds .null
    rw [hperform, hb, hiff.mpr hsettled]
    rfl
  · obtain ⟨b, hb, hiff⟩ := CompiledRule.exists_joined_of_holds hfirst hjoins hholds .null
    rw [hperform, hb, Bool.eq_false_iff.mpr (mt hiff.mp hsettled)]
    rfl

end Rule

/-! ### A branch in which nothing binds tighter -/

/-- Whether an input is true. -/
def isTrue (name : String) (combinator : Option Combinator := none) : Condition :=
  { lhs := .input name, operator := .eq, rhs := .literal (.bool true) .boolean, combinator }

/-- Admission is free, or for members, and in either case only while the house is open. -/
def door : Step :=
  { id := "door"
    action := .branch [isTrue "free", isTrue "member" (some .or), isTrue "open" (some .and)]
      (some "in") (some "out") }

/-- A rule that tells whether somebody is admitted. -/
def admission : Rule :=
  { id := "admission", name := "Admission"
    inputs := [{ name := "free", type := .boolean }, { name := "member", type := .boolean },
      { name := "open", type := .boolean }]
    steps := [door,
      { id := "in", action := .output (.success (.literal (.bool true) .boolean)) },
      { id := "out", action := .output (.success (.literal (.bool false) .boolean)) }] }

/-- What `admission` is compiled to. -/
def admissionCompiled : CompiledRule :=
  { rule := admission, entry := "door", order := ["door", "out", "in"]
    calls := [], types := [("free", .boolean), ("member", .boolean), ("open", .boolean)]
    fingerprint := admission.fingerprint
    version := Catalogue.version }

/-- A free day on which the house is closed. -/
def freeDay : Context :=
  { inputs := admission.inputs
    values := [("free", .bool true), ("member", .bool false), ("open", .bool false)] }

set_option maxRecDepth 10000 in
theorem admission_compile : admission.compile Catalogue.standard = .ok admissionCompiled := rfl

theorem door_branch_decides :
    admission.compile Catalogue.standard = .ok admissionCompiled ∧ door ∈ admission.steps ∧
      door.action = .branch [isTrue "free", isTrue "member" (some .or), isTrue "open" (some .and)]
        (some "in") (some "out") ∧
      admissionCompiled.Decides freeDay door
        [isTrue "free", isTrue "member" (some .or), isTrue "open" (some .and)]
        (some "in") (some "out") :=
  ⟨admission_compile, List.mem_cons_self, rfl,
    Rule.branch_decides admission_compile List.mem_cons_self rfl freeDay⟩

/-- The last `and` takes away what the first condition gave. -/
example : admissionCompiled.perform freeDay door = .ok (.onward freeDay (some "out")) := rfl

end RuleFlow
