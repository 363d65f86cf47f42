import RuleFlow.Rule.Error

/-!
# The graph of steps

The steps of a rule and their targets form a directed graph. It has to be free of circles, to start
at one step, to define every result before it is read, and to end at output steps only.

* `RuleFlow.Graph.search` walks a graph depth first and finds a circle if it meets one.
* `RuleFlow.Rule.availability` follows the results along the steps.
* `RuleFlow.Rule.analyze` makes all checks, in this order: names, targets, circles, the first step,
  definitions, ends.
-/

namespace RuleFlow

/-! ### Walking a graph -/

namespace Graph

/-- How far a walk has come. -/
structure Walk where
  /-- The vertices met so far. -/
  visited : List String := []
  /-- The vertices left behind, the last one first: each before those that it leads to. -/
  finished : List String := []

/-- The circle that a vertex closes, given the way to it backwards. -/
def circle (path : List String) (vertex : String) : List String :=
  vertex :: (path.takeWhile (· != vertex)).reverse ++ [vertex]

/-- **A walk from a vertex**, depth first, along the way `path` that leads to it, given backwards.
A vertex on the way closes a circle; one met before is not walked again. The first argument bounds
the length of the way. -/
def search (successors : String → List String) :
    Nat → List String → Walk → String → Except (List String) Walk
  | 0, _, walk, _ => .ok walk
  | depth + 1, path, walk, vertex =>
    let path := vertex :: path
    let step (walk : Walk) (next : String) : Except (List String) Walk :=
      if path.contains next then .error (circle path next)
      else if walk.visited.contains next then .ok walk
      else search successors depth path walk next
    match (successors vertex).foldlM step { walk with visited := vertex :: walk.visited } with
    | .error cycle => .error cycle
    | .ok walk => .ok { walk with finished := vertex :: walk.finished }

end Graph

/-! ### The checks -/

/-- **What is known of a rule whose steps hang together.** -/
structure Analysis where
  /-- The first step. -/
  entry : String
  /-- The steps, each before those that may follow it. -/
  order : List String
  /-- The results that are there when a step is reached. -/
  defined : Keyed (List String)
deriving Repr

namespace Rule

/-- The first name that was there before, if any. -/
def firstRepeated? : List String → List String → Option String
  | _, [] => none
  | before, name :: rest =>
    if before.contains name then some name else firstRepeated? (name :: before) rest

/-- The check of the names of steps and results, given those met before. -/
def checkStepNames (inputs : List String) :
    List String → Keyed String → List Step → Except GraphError Unit
  | _, _, [] => .ok ()
  | ids, results, s :: rest =>
    if ids.contains s.id then .error (.duplicateStep s.id)
    else
      match s.result? with
      | none => checkStepNames inputs (s.id :: ids) results rest
      | some name =>
        match results.find? name with
        | some first => .error (.duplicateVariable name first s.id)
        | none =>
          if inputs.contains name then .error (.shadowedInput name s.id)
          else checkStepNames inputs (s.id :: ids) ((name, s.id) :: results) rest

/-- **No name is given twice.** -/
def checkNames (r : Rule) : Except GraphError Unit :=
  match firstRepeated? [] r.inputNames with
  | some name => .error (.duplicateInput name)
  | none => checkStepNames r.inputNames [] [] r.steps

/-- **Every target is a step**, and so is the declared first step. -/
def checkTargets (r : Rule) : Except GraphError Unit :=
  let dangling := r.steps.findSome? fun s =>
    (s.successors.find? fun target => !r.hasStep target).map fun target => (s.id, target)
  match dangling with
  | some (stepId, target) => .error (.danglingTarget stepId target)
  | none =>
    match r.entry with
    | some entry => if r.hasStep entry then .ok () else .error (.danglingEntry entry)
    | none => .ok ()

/-- Whether some step may be followed by a step. -/
def isReferenced (r : Rule) (id : String) : Bool :=
  r.steps.any fun s => s.successors.contains id

/-- **The steps that follow no step.** -/
def roots (r : Rule) : List String :=
  (r.steps.map (·.id)).filter fun id => !r.isReferenced id

/-- The steps that may follow a step. -/
def successors (r : Rule) (id : String) : List String :=
  (r.step? id).elim [] Step.successors

/-- The walk from a step of the rule. -/
def walkFrom (r : Rule) (walk : Graph.Walk) (id : String) : Except GraphError Graph.Walk :=
  (Graph.search r.successors (r.steps.length + 1) [] walk id).mapError .cycle

/-- **No circle**: the steps reached from `start`, in an order in which each comes before those that
may follow it. Steps not reached are walked too. -/
def checkCircles (r : Rule) (start : String) : Except GraphError (List String) := do
  let walk ← r.walkFrom {} start
  let _ ← r.steps.foldlM (fun (rest : Graph.Walk) s =>
    if rest.visited.contains s.id then .ok rest else r.walkFrom rest s.id) walk
  return walk.finished

/-- **One first step**: the only one that follows no step, which is the declared one if there is
any. -/
def checkEntry (r : Rule) : Except GraphError String :=
  match r.roots with
  | [root] =>
    match r.entry with
    | some entry => if entry = root then .ok root else .error (.wrongEntry entry root)
    | none => .ok root
  | candidates => .error (.severalRoots r.id candidates)

/-- The first reference of a step that has no value where the given results are there. -/
def unresolved? (r : Rule) (available : List String) (s : Step) : Option GraphError :=
  s.references.findSome? fun
    | .input name => if r.inputNames.contains name then none else some (.undeclaredInput name s.id)
    | .variable name =>
      if available.contains name then none else some (.undefinedVariable name s.id)

/-- The results that are there after a step. -/
def produced (available : List String) (s : Step) : List String :=
  match s.result? with
  | some name => if available.contains name then available else available ++ [name]
  | none => available

/-- The results that are there at a target, once one more way leads to it. -/
def meet (defined : Keyed (List String)) (target : String) (available : List String) :
    Keyed (List String) :=
  match defined.find? target with
  | some before => defined.set target (before.filter available.contains)
  | none => defined.set target available

/-- **The results along the steps**: at a step those are there that every way to it produces. A step
that reads another one is refused. -/
def availability (r : Rule) : Keyed (List String) → List String →
    Except GraphError (Keyed (List String))
  | defined, [] => .ok defined
  | defined, id :: rest =>
    match r.step? id with
    | none => r.availability defined rest
    | some s =>
      let here := (defined.find? id).getD []
      match r.unresolved? here s with
      | some e => .error e
      | none =>
        let after := produced here s
        r.availability (s.successors.foldl (meet · · after) defined) rest

/-- **Every run ends at an output step.** -/
def checkEnds (r : Rule) (order : List String) : Except GraphError Unit :=
  let opens (id : String) : Bool :=
    (r.step? id).any fun s => s.targets.any Option.isNone
  match order.find? opens with
  | some id => .error (.unterminated id)
  | none => .ok ()

/-- The step at which the walk starts. -/
def start (r : Rule) (first : Step) : String :=
  match r.entry with
  | some entry => if r.hasStep entry then entry else r.roots.headD first.id
  | none => r.roots.headD first.id

/-- **The analysis of a rule**, or the first error found. -/
def analyze (r : Rule) : Except GraphError Analysis := do
  r.checkNames
  r.checkTargets
  match r.steps with
  | [] => .error (.noSteps r.id)
  | first :: _ =>
    let order ← r.checkCircles (r.start first)
    let entry ← r.checkEntry
    let defined ← r.availability [(entry, [])] order
    r.checkEnds order
    return { entry, order, defined }

end Rule

end RuleFlow
