import RuleFlow.Proofs.Graph.Order

/-!
# Results along the ways

The results that are there when a step is reached are followed in one pass along the order of the
steps. The pass meets what comes along the edges; this file shows that it comes to the results
that **every way** to the step produces.

## The invariant

When the pass has done the steps `before`, it knows of every step the results that all those ways
produce which have passed steps of `before` only (`RuleFlow.Rule.Tracks`). Each step stands behind
everything that may lead to it, so when the pass comes to a step these are all ways to it
(`RuleFlow.Rule.Ordered.passed_before`), and what is known of the step is final.

* `RuleFlow.Rule.Tracks.advance` is what one step of the pass preserves.
* `RuleFlow.Rule.ends_availability` is the whole pass: it knows the results of every step, and
  refuses a step exactly if the step reads something that is not there.
-/

namespace RuleFlow

namespace Rule

variable {r : Rule} {first id target name : String} {s : Step}
  {order before rest here after names : List String} {defined : Keyed (List String)}

/-! ### What a step reads -/

/-- **A step reads what is not there**: an input that is not declared, or a result that not every
way to the step produces. -/
def ReadsUnknown (r : Rule) (first : String) (s : Step) : Prop :=
  (∃ name, .input name ∈ s.references ∧ name ∉ r.inputNames) ∨
    ∃ name, .variable name ∈ s.references ∧ ¬r.Assured first s.id name

/-- The check of what a step reads, where the results that are there are the assured ones. -/
theorem unresolved?_spec (hhere : ∀ name, name ∈ here ↔ r.Assured first s.id name) :
    match r.unresolved? here s with
    | none => ¬r.ReadsUnknown first s
    | some e => e.kind = .unresolvedVariable ∧ r.ReadsUnknown first s := by
  split
  next hnone =>
    have hall := List.findSome?_eq_none_iff.mp hnone
    rintro (⟨name, hmem, hno⟩ | ⟨name, hmem, hno⟩)
    · have hread := hall _ hmem
      simp [hno] at hread
    · have hread := hall _ hmem
      simp only [List.contains_iff_mem, ite_eq_left_iff, reduceCtorEq, imp_false, not_not] at hread
      exact hno ((hhere name).mp hread)
  next e hsome =>
    obtain ⟨reference, hmem, hread⟩ := List.exists_of_findSome?_eq_some hsome
    rcases reference with name | name
    · simp only [List.contains_iff_mem, Option.ite_none_left_eq_some] at hread
      obtain ⟨hno, he⟩ := hread
      obtain rfl := Option.some.inj he
      exact ⟨rfl, Or.inl ⟨name, hmem, hno⟩⟩
    · simp only [List.contains_iff_mem, Option.ite_none_left_eq_some] at hread
      obtain ⟨hno, he⟩ := hread
      obtain rfl := Option.some.inj he
      exact ⟨rfl, Or.inr ⟨name, hmem, fun h => hno ((hhere name).mpr h)⟩⟩

/-! ### One edge, and all edges of a step -/

theorem mem_produced : name ∈ produced here s ↔ name ∈ here ∨ s.result? = some name := by
  rw [produced]
  cases hresult : s.result? with
  | none => simp
  | some result =>
    dsimp only
    split_ifs with hmem
    · have hmem' : result ∈ here := by simpa using hmem
      refine ⟨Or.inl, ?_⟩
      rintro (h | h)
      · exact h
      · exact Option.some.inj h ▸ hmem'
    · simp [eq_comm]

theorem nodup_produced (h : here.Nodup) : (produced here s).Nodup := by
  rw [produced]
  cases s.result? with
  | none => exact h
  | some result =>
    dsimp only
    split_ifs with hmem
    · exact h
    · exact List.nodup_append.mpr ⟨h, by simp, fun a ha b hb hab => hmem (by simp_all)⟩

/-- What is known of a target, once `after` comes along one more edge. -/
def joined (known : Option (List String)) (after : List String) : List String :=
  known.elim after fun names => names.filter after.contains

theorem find?_meet (defined : Keyed (List String)) (next target : String) (after : List String) :
    (meet defined next after).find? target =
      if target = next then some (joined (defined.find? next) after) else defined.find? target := by
  rw [meet]
  split_ifs with h
  · subst h
    cases hfound : defined.find? target with
    | none => exact Keyed.find?_set_self ..
    | some names => exact Keyed.find?_set_self ..
  · cases hfound : defined.find? next with
    | none => exact Keyed.find?_set_of_ne _ _ h
    | some names => exact Keyed.find?_set_of_ne _ _ h

/-- Meeting the same results twice is meeting them once. -/
theorem joined_joined (known : Option (List String)) (after : List String) :
    joined (some (joined known after)) after = joined known after := by
  cases known with
  | none => simp [joined]
  | some names => exact List.filter_filter.trans (by simp only [Bool.and_self]; rfl)

/-- **All edges of a step**: what comes along them is met at every target, once. -/
theorem find?_foldl_meet (targets : List String) (defined : Keyed (List String)) (target : String)
    (after : List String) :
    (targets.foldl (meet · · after) defined).find? target =
      if target ∈ targets then some (joined (defined.find? target) after)
      else defined.find? target := by
  induction targets generalizing defined with
  | nil => simp
  | cons next targets ih =>
    rw [List.foldl_cons, ih, find?_meet]
    by_cases hnext : target = next
    · subst hnext
      by_cases hmem : target ∈ targets <;> simp [hmem, joined_joined]
    · simp [hnext]

/-! ### The invariant of the pass -/

/-- A way that has passed steps of `before` only. -/
def WayWithin (r : Rule) (first : String) (before : List String) (passed : List Step)
    (id : String) : Prop :=
  r.Way first passed id ∧ ∀ s ∈ passed, s.id ∈ before

/-- **What the pass knows**, once the steps `before` are done: of every step that a way through them
leads to, the results that all such ways produce. -/
structure Tracks (r : Rule) (first : String) (before : List String)
    (defined : Keyed (List String)) : Prop where
  /-- What is known of a step has no name twice. -/
  nodup : ∀ id names, defined.find? id = some names → names.Nodup
  /-- What is known of a step is what all ways through the steps done produce. -/
  known : ∀ id names, defined.find? id = some names → ∀ name, name ∈ names ↔
    ∀ passed, r.WayWithin first before passed id → name ∈ results passed
  /-- Nothing is known of a step that no such way leads to. -/
  unknown : ∀ id, defined.find? id = none → ∀ passed, ¬r.WayWithin first before passed id

/-- Before the first step, only the way that has not begun is known. -/
theorem Tracks.start : r.Tracks first [] [(first, [])] := by
  have hfind : ∀ id, Keyed.find? [(first, ([] : List String))] id =
      if id = first then some [] else none := by
    intro id
    rw [Keyed.find?_cons]
    rfl
  refine ⟨fun id names h => ?_, fun id names h name => ?_, fun id h passed hway => ?_⟩
  · rw [hfind] at h
    split_ifs at h
    obtain rfl := Option.some.inj h
    exact List.nodup_nil
  · rw [hfind] at h
    split_ifs at h with hid
    obtain rfl := Option.some.inj h
    subst hid
    refine ⟨fun hmem => absurd hmem List.not_mem_nil, fun hall => ?_⟩
    exact hall [] ⟨.start, by simp⟩
  · rw [hfind] at h
    split_ifs at h with hid
    obtain ⟨hway, hpassed⟩ := hway
    cases hway with
    | start => exact hid rfl
    | @onward passed s _ _ _ _ => exact List.not_mem_nil (hpassed s (by simp))

section Pass

variable (h : r.Ordered first order) (horder : order = before ++ id :: rest)

include h horder

/-- **When the pass comes to a step**, what is known of it is what every way to it produces. -/
theorem Tracks.assured_iff (htracks : r.Tracks first before defined) :
    ((defined.find? id).getD []).Nodup ∧
      ∀ name, name ∈ (defined.find? id).getD [] ↔ r.Assured first id name := by
  have hid : id ∈ r.ids := (h.mem_iff id).mp (by simp [horder])
  obtain ⟨passed, hway⟩ := h.reached id hid
  cases hfound : defined.find? id with
  | none => exact absurd ⟨hway, h.passed_before horder hway⟩ (htracks.unknown id hfound passed)
  | some names =>
    -- A way to this step has passed only steps that are done, so none is left out.
    refine ⟨htracks.nodup id names hfound, fun name => ?_⟩
    rw [Option.getD_some, htracks.known id names hfound name]
    constructor
    · exact fun hall passed hway => hall passed ⟨hway, h.passed_before horder hway⟩
    · exact fun hall passed hway => hall passed hway.1

/-- **One more step**: the ways through it and the steps before it are those through the steps
before it, and those that have passed it last. -/
theorem forall_wayWithin_snoc_iff (hs : r.step? id = some s) :
    (∀ passed, r.WayWithin first (before ++ [id]) passed target → name ∈ results passed) ↔
      (∀ passed, r.WayWithin first before passed target → name ∈ results passed) ∧
        (target ∈ s.successors → r.Assured first id name ∨ s.result? = some name) := by
  obtain ⟨hmem, rfl⟩ := mem_of_step? hs
  constructor
  · refine fun hall => ⟨fun passed hway => hall passed ⟨hway.1, fun t ht => ?_⟩, fun htarget => ?_⟩
    · exact List.mem_append_left _ (hway.2 t ht)
    · -- A way to the step that lacks the result goes on to the target and lacks it there.
      by_contra hno
      rw [not_or, Assured, not_forall] at hno
      obtain ⟨⟨passed, hpassed⟩, hresult⟩ := hno
      obtain ⟨hway, hlacks⟩ := Classical.not_imp.mp hpassed
      have hmem' := hall (passed ++ [s]) ⟨hway.onward hmem (Step.mem_successors.mp htarget),
        fun t ht => by
          rcases List.mem_append.mp ht with ht | ht
          · exact List.mem_append_left _ (h.passed_before horder hway t ht)
          · obtain rfl := List.mem_singleton.mp ht
            simp⟩
      rw [results_append, List.mem_append, mem_results_singleton] at hmem'
      rcases hmem' with hmem' | hmem'
      · exact hlacks hmem'
      · exact hresult hmem'
  · rintro ⟨hbefore, hlast⟩ passed ⟨hway, hpassed⟩
    rcases h.passed_last horder hway hpassed with
      hpassed | ⟨passed', t, rfl, ht, hid, htarget, hway'⟩
    · exact hbefore passed ⟨hway, hpassed⟩
    · obtain rfl : t = s := by
        rw [← hid, step?_id h.unique ht] at hs
        exact Option.some.inj hs
      rw [results_append, List.mem_append, mem_results_singleton]
      exact (hlast (Step.mem_successors.mpr htarget)).imp_left fun hall => hall passed' hway'

/-- **What one step of the pass preserves.** -/
theorem Tracks.advance (htracks : r.Tracks first before defined) (hs : r.step? id = some s) :
    r.Tracks first (before ++ [id])
      (s.successors.foldl (meet · · (produced ((defined.find? id).getD []) s)) defined) := by
  obtain ⟨hnodup, hhere⟩ := htracks.assured_iff h horder
  have hafter : ∀ name, name ∈ produced ((defined.find? id).getD []) s ↔
      r.Assured first id name ∨ s.result? = some name := by
    intro name
    rw [mem_produced, hhere]
  refine ⟨fun target names hfound => ?_, fun target names hfound name => ?_,
    fun target hfound passed hway => ?_⟩
  · rw [find?_foldl_meet] at hfound
    split_ifs at hfound with htarget
    · obtain rfl := Option.some.inj hfound
      cases hold : defined.find? target with
      | none => exact nodup_produced hnodup
      | some names => exact (htracks.nodup target names hold).filter _
    · exact htracks.nodup target names hfound
  · rw [forall_wayWithin_snoc_iff h horder hs]
    rw [find?_foldl_meet] at hfound
    split_ifs at hfound with htarget
    · obtain rfl := Option.some.inj hfound
      cases hold : defined.find? target with
      | none =>
        -- No way has led to the target so far, so what comes along this edge is all there is.
        have hvacuous : ∀ passed, r.WayWithin first before passed target →
            name ∈ results passed :=
          fun passed hway => absurd hway (htracks.unknown target hold passed)
        rw [joined, Option.elim_none, hafter]
        exact ⟨fun hname => ⟨hvacuous, fun _ => hname⟩, fun hboth => hboth.2 htarget⟩
      | some names =>
        simp [joined, hafter, htarget, htracks.known target names hold]
    · simp [htracks.known target names hfound, htarget]
  · rw [find?_foldl_meet] at hfound
    split_ifs at hfound with htarget
    rcases h.passed_last horder hway.1 hway.2 with hpassed | ⟨_, t, _, ht, hid, hmem, _⟩
    · exact htracks.unknown target hfound passed ⟨hway.1, hpassed⟩
    · obtain rfl : t = s := by
        rw [← hid, step?_id h.unique ht] at hs
        exact Option.some.inj hs
      exact htarget (Step.mem_successors.mpr hmem)

end Pass

/-! ### The whole pass -/

/-- **The pass along the results** knows what every way produces, and refuses a step exactly if it
reads what is not there. -/
theorem ends_availability (h : r.Ordered first order) (horder : order = before ++ rest)
    (htracks : r.Tracks first before defined) :
    Ends (r.availability defined rest)
      (fun defined' => r.Tracks first order defined' ∧
        ∀ s ∈ r.steps, s.id ∈ rest → ¬r.ReadsUnknown first s)
      (fun e => e.kind = .unresolvedVariable ∧ ∃ s ∈ r.steps, r.ReadsUnknown first s) := by
  induction rest generalizing before defined with
  | nil =>
    obtain rfl : order = before := by simpa using horder
    exact ⟨htracks, by simp⟩
  | cons id rest ih =>
    obtain ⟨s, hmem, rfl⟩ := mem_ids.mp ((h.mem_iff id).mp (by simp [horder]))
    have hs := step?_id h.unique hmem
    have hread := unresolved?_spec (htracks.assured_iff h horder).2
    rw [availability, hs]
    dsimp only
    cases hfound : r.unresolved? ((defined.find? s.id).getD []) s with
    | some e =>
      rw [hfound] at hread
      exact ⟨hread.1, s, hmem, hread.2⟩
    | none =>
      rw [hfound] at hread
      refine (ih (by simpa using horder) (htracks.advance h horder hs)).mono ?_ fun _ h => h
      rintro defined' ⟨htracks', hrest⟩
      refine ⟨htracks', fun t ht hid => ?_⟩
      rcases List.mem_cons.mp hid with hid | hid
      · have heq := step?_id h.unique ht
        rw [hid, hs] at heq
        exact Option.some.inj heq ▸ hread
      · exact hrest t ht hid

/-- **At the end of the pass** every step has its results: those that every way to it produces. -/
theorem Tracks.find? (h : r.Ordered first order) (htracks : r.Tracks first order defined)
    (hs : s ∈ r.steps) :
    ∃ names, Keyed.find? defined s.id = some names ∧ names.Nodup ∧
      ∀ name, name ∈ names ↔ r.Assured first s.id name := by
  have hwithin : ∀ passed, r.Way first passed s.id → r.WayWithin first order passed s.id :=
    fun passed hway => ⟨hway, fun t ht => (h.mem_iff _).mpr (id_mem_ids (hway.passed_mem t ht))⟩
  cases hfound : Keyed.find? defined s.id with
  | none =>
    obtain ⟨passed, hway⟩ := h.reached s.id (id_mem_ids hs)
    exact absurd (hwithin passed hway) (htracks.unknown s.id hfound passed)
  | some names =>
    refine ⟨names, rfl, htracks.nodup s.id names hfound, fun name => ?_⟩
    rw [htracks.known s.id names hfound name]
    exact ⟨fun hall passed hway => hall passed (hwithin passed hway),
      fun hall passed hway => hall passed hway.1⟩

end Rule

end RuleFlow
