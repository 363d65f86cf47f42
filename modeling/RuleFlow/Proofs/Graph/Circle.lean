import RuleFlow.Proofs.Graph.Verdict

/-!
# The circle that is told

A rule whose steps follow each other in a circle is refused, and the error shows a path. The path is
cut out of the way that the walk is on when it comes back to a step of that way. This file says that
it is a circle of the rule, wherever the circle lies: the walk goes on from every step that it has
not met, so that circles out of reach of the first step are told as well.

* `RuleFlow.Rule.TracesCircle` says of a path, step by step, that it is a simple circle.
* `RuleFlow.Rule.exists_analyze_eq_cycle`: where the names and targets are in order, a circle is
  told if there is one.
* `RuleFlow.Rule.circle_told` is the result, for every rule that is refused for a circle.
-/

namespace RuleFlow

namespace Rule

variable {r : Rule} {path : List String}

/-- **A path traces a circle** of the steps of a rule. -/
structure TracesCircle (r : Rule) (path : List String) : Prop where
  /-- The path comes back, be it from the same step. -/
  two_le : 2 ≤ path.length
  /-- It ends where it starts. -/
  closed : path.head? = path.getLast?
  /-- It meets no step twice before. -/
  simple : path.dropLast.Nodup
  /-- Each step on it has the next one among its targets. -/
  linked : path.IsChain r.Follows

/-- What the walk takes for a circle traces one, where no name is given to two steps. -/
theorem tracesCircle_of_isCircle (hunique : r.ids.Nodup)
    (h : Graph.IsCircle r.successors path) : r.TracesCircle path := by
  obtain ⟨v, between, rfl, hsimple, hchain⟩ := h
  refine ⟨by simp, ?_, ?_, leads_eq hunique ▸ hchain⟩
  · rw [← List.cons_append, List.getLast?_concat, List.cons_append, List.head?_cons]
  · rwa [← List.cons_append, List.dropLast_concat]

/-- **A circle is told** if there is one, in a rule whose names and targets are in order. -/
theorem exists_analyze_eq_cycle (hapart : ¬r.RepeatsName) (hclosed : ¬r.Dangles)
    (hcircles : r.Circles) :
    ∃ path, r.analyze = .error (.cycle path) ∧ r.TracesCircle path := by
  have hunique : r.ids.Nodup := (not_repeatsName_iff.mp hapart).2.ids
  have hnames : r.checkNames = .ok () := by
    cases h : r.checkNames with
    | ok => rfl
    | error e => exact absurd (ends_checkNames.of_error h).2 hapart
  have htargets : r.checkTargets = .ok () := by
    cases h : r.checkTargets with
    | ok => rfl
    | error e => exact absurd (ends_checkTargets.of_error h).2 hclosed
  -- A circle has a step on it, so there is a step to start from.
  obtain ⟨first, rest, hsteps⟩ : ∃ first rest, r.steps = first :: rest := by
    obtain ⟨id, hid⟩ := hcircles
    obtain ⟨_, ⟨s, hs, -⟩, -⟩ := Relation.TransGen.head'_iff.mp hid
    exact List.exists_cons_of_ne_nil (List.ne_nil_of_mem hs)
  have hstart := start_mem_ids hclosed (show first ∈ r.steps by simp [hsteps])
  have hwalk := ends_checkCircles hunique hclosed hstart
  cases hcheck : r.checkCircles (r.start first) with
  | ok order =>
    obtain ⟨-, all, hall, hids⟩ := hwalk.of_ok hcheck
    exact absurd hcircles (not_circles_of_sorted hunique hall fun id => (hids id).mpr)
  | error e =>
    obtain ⟨path, rfl, hpath⟩ := hwalk.of_error hcheck
    refine ⟨path, ?_, tracesCircle_of_isCircle hunique hpath⟩
    rw [analyze, hnames, htargets, hsteps]
    simp only [bind, Except.bind, hcheck]

/-- A flaw told by another kind of error is not the first one. -/
theorem FirstFlaw.of_kind_ne {flaw : Prop} {kind found : ErrorKind}
    {rest : List (Prop × ErrorKind)} (h : FirstFlaw ((flaw, kind) :: rest) (some found))
    (hne : kind ≠ found) : ¬flaw ∧ FirstFlaw rest (some found) := by
  cases h with
  | here => exact absurd rfl hne
  | later hno hrest => exact ⟨hno, hrest⟩

/-- **Only circles are told as circles**, and only once names and targets are in order. -/
theorem circles_of_analyze {e : GraphError} (h : r.analyze = .error e) (hkind : e.kind = .cycle) :
    ¬r.RepeatsName ∧ ¬r.Dangles ∧ r.Circles := by
  have hflaw : FirstFlaw r.flaws (some .cycle) := hkind ▸ r.ends_analyze.of_error h
  obtain ⟨hapart, hflaw⟩ := hflaw.of_kind_ne (by decide)
  obtain ⟨hclosed, hflaw⟩ := hflaw.of_kind_ne (by decide)
  obtain ⟨-, hflaw⟩ := hflaw.of_kind_ne (by decide)
  refine ⟨hapart, hclosed, ?_⟩
  cases hflaw with
  | here hcircles => exact hcircles
  | later _ hflaw =>
    obtain ⟨-, hflaw⟩ := hflaw.of_kind_ne (by decide)
    obtain ⟨-, hflaw⟩ := hflaw.of_kind_ne (by decide)
    obtain ⟨-, hflaw⟩ := hflaw.of_kind_ne (by decide)
    exact nomatch hflaw

/-- **The circle that is told** is one of the rule. A rule is refused for a circle if and only if
its names and targets are in order and its steps follow each other in a circle somewhere; what the
error then shows is a path with at least two entries that ends where it starts, meets no step twice
before its end, and goes from each step to one of the targets of that step. -/
theorem circle_told (r : Rule) :
    ((∃ e, r.analyze = .error e ∧ e.kind = .cycle) ↔
        ¬r.RepeatsName ∧ ¬r.Dangles ∧ r.Circles) ∧
      ∀ e, r.analyze = .error e → e.kind = .cycle →
        ∃ path, e = .cycle path ∧ e.details = [("path", .list (path.map .text))] ∧
          r.TracesCircle path := by
  refine ⟨⟨fun ⟨e, he, hkind⟩ => circles_of_analyze he hkind, ?_⟩, fun e he hkind => ?_⟩
  · rintro ⟨hapart, hclosed, hcircles⟩
    obtain ⟨path, hpath, -⟩ := exists_analyze_eq_cycle hapart hclosed hcircles
    exact ⟨_, hpath, rfl⟩
  · obtain ⟨hapart, hclosed, hcircles⟩ := circles_of_analyze he hkind
    obtain ⟨path, hpath, htraces⟩ := exists_analyze_eq_cycle hapart hclosed hcircles
    obtain rfl := Except.error.inj (he.symm.trans hpath)
    exact ⟨path, rfl, rfl, htraces⟩

/-! ### A circle out of reach -/

/-- A rule that ends at its first step, beside two steps that it does not reach and that follow each
other in a circle. -/
def aside : Rule :=
  { id := "aside", name := "Aside"
    steps := [{ id := "only", action := .output (.success (.literal (.bool true) .boolean)) },
      { id := "back", action := .branch [] (some "only") (some "forth") },
      { id := "forth", action := .call "there" "f" [] (some "back") }]
    entry := some "only" }

theorem aside_circle_told :
    aside.analyze = .error (.cycle ["back", "forth", "back"]) ∧
      ∃ path, GraphError.cycle ["back", "forth", "back"] = .cycle path ∧
        (GraphError.cycle ["back", "forth", "back"]).details =
          [("path", .list (path.map .text))] ∧
        aside.TracesCircle path :=
  ⟨rfl, (circle_told aside).2 _ rfl rfl⟩

end Rule

end RuleFlow
