import RuleFlow.Proofs.Ends
import RuleFlow.Proofs.Graph.Way

/-!
# The flaws of a rule, and the checks that find them

What can be wrong with the steps of a rule, said of the rule alone, and what each check comes to:
it passes where its flaw is not there, and fails with the kind of error of the flaw where it is.

* `RuleFlow.Rule.RepeatsName`, `RuleFlow.Rule.Dangles`, `RuleFlow.Rule.LacksEntry` and
  `RuleFlow.Rule.EndsOpen` are the flaws that can be seen step by step. Circles are found by a
  search, and values that are not there by following the results.
* `RuleFlow.Rule.ends_checkNames`, `ends_checkTargets`, `ends_checkEntry` and `ends_checkEnds`: the
  checks.
-/

namespace RuleFlow

namespace Rule

variable {r : Rule}

/-! ### Names -/

/-- **A name is given twice**: to two inputs, to two steps, to the results of two calls, or to an
input and a result. -/
def RepeatsName (r : Rule) : Prop :=
  ¬r.inputNames.Nodup ∨ ¬r.ids.Nodup ∨ ¬(results r.steps).Nodup ∨
    ∃ name ∈ results r.steps, name ∈ r.inputNames

theorem firstRepeated?_eq_none_iff {before names : List String} :
    firstRepeated? before names = none ↔ names.Nodup ∧ ∀ name ∈ names, name ∉ before := by
  induction names generalizing before with
  | nil => simp [firstRepeated?]
  | cons name names ih =>
    rw [firstRepeated?]
    split_ifs with h
    · simp only [List.contains_iff_mem] at h
      simp [h]
    · simp only [List.contains_iff_mem] at h
      rw [ih, List.nodup_cons]
      constructor
      · rintro ⟨hnodup, hfresh⟩
        refine ⟨⟨fun hmem => hfresh name hmem List.mem_cons_self, hnodup⟩, ?_⟩
        intro other hother
        rcases List.mem_cons.mp hother with rfl | hother
        · exact h
        · exact fun hmem => hfresh other hother (List.mem_cons_of_mem _ hmem)
      · rintro ⟨⟨hname, hnodup⟩, hfresh⟩
        refine ⟨hnodup, fun other hother hmem => ?_⟩
        rcases List.mem_cons.mp hmem with rfl | hmem
        · exact hname hother
        · exact hfresh other (List.mem_cons_of_mem _ hother) hmem

/-- **Some steps have names of their own**, apart from each other and from the inputs. -/
structure NamesApart (inputs : List String) (steps : List Step) : Prop where
  /-- No two steps have one name. -/
  ids : (steps.map (·.id)).Nodup
  /-- No two results have one name. -/
  results : (results steps).Nodup
  /-- No result has the name of an input. -/
  inputs : ∀ name ∈ RuleFlow.results steps, name ∉ inputs

theorem not_repeatsName_iff :
    ¬r.RepeatsName ↔ r.inputNames.Nodup ∧ NamesApart r.inputNames r.steps := by
  constructor
  · intro h
    simp only [RepeatsName, not_or, not_not, not_exists, not_and] at h
    exact ⟨h.1, h.2.1, h.2.2.1, h.2.2.2⟩
  · rintro ⟨hinputs, hids, hresults, hapart⟩ (h | h | h | ⟨name, hname, hmem⟩)
    · exact h hinputs
    · exact h hids
    · exact h hresults
    · exact hapart name hname hmem

section NamesApart

variable {inputs : List String} {before rest : List Step} {s : Step}

theorem NamesApart.of_append (h : NamesApart inputs (before ++ rest)) :
    NamesApart inputs before := by
  obtain ⟨hids, hresults, hinputs⟩ := h
  rw [List.map_append] at hids
  rw [results_append] at hresults
  refine ⟨(List.nodup_append.mp hids).1, (List.nodup_append.mp hresults).1, fun name hname => ?_⟩
  exact hinputs name (by simp [hname])

/-- **One more step** has a new name, and so has its result. -/
theorem namesApart_snoc_iff :
    NamesApart inputs (before ++ [s]) ↔ NamesApart inputs before ∧ s.id ∉ before.map (·.id) ∧
      ∀ name, s.result? = some name → name ∉ results before ∧ name ∉ inputs := by
  constructor
  · intro h
    refine ⟨h.of_append, ?_, fun name hname => ⟨fun hmem => ?_, ?_⟩⟩
    · have hids := h.ids
      rw [List.map_append, List.nodup_append] at hids
      exact fun hmem => hids.2.2 s.id hmem s.id (by simp) rfl
    · have hresults := h.results
      rw [results_append, List.nodup_append] at hresults
      exact hresults.2.2 name hmem name (mem_results_singleton.mpr hname) rfl
    · refine h.inputs name ?_
      rw [results_append]
      exact List.mem_append_right _ (mem_results_singleton.mpr hname)
  · rintro ⟨⟨hids, hresults, hinputs⟩, hid, hresult⟩
    refine ⟨?_, ?_, fun name hname => ?_⟩
    · rw [List.map_append, List.nodup_append]
      refine ⟨hids, by simp, fun a ha b hb hab => hid ?_⟩
      obtain rfl : b = s.id := by simpa using hb
      exact hab ▸ ha
    · rw [results_append, List.nodup_append]
      refine ⟨hresults, by cases h : s.result? <;> simp [results, h], fun a ha b hb hab => ?_⟩
      exact (hresult b (mem_results_singleton.mp hb)).1 (hab ▸ ha)
    · rw [results_append] at hname
      rcases List.mem_append.mp hname with hname | hname
      · exact hinputs name hname
      · exact (hresult name (mem_results_singleton.mp hname)).2

/-- **The check of the names of steps** goes on as long as they are apart. -/
theorem ends_checkStepNames (before : List Step) {ids : List String} {taken : Keyed String}
    (hids : ∀ id, id ∈ ids ↔ id ∈ before.map (·.id))
    (htaken : ∀ name, taken.find? name = none ↔ name ∉ results before)
    (hbefore : NamesApart inputs before) :
    Ends (checkStepNames inputs ids taken rest) (fun _ => NamesApart inputs (before ++ rest))
      (fun e => e.kind = .duplicateId ∧ ¬NamesApart inputs (before ++ rest)) := by
  induction rest generalizing before ids taken with
  | nil => simpa [checkStepNames] using hbefore
  | cons s rest ih =>
    have hsplit : before ++ s :: rest = (before ++ [s]) ++ rest := by simp
    have hids' : ∀ id, id ∈ s.id :: ids ↔ id ∈ (before ++ [s]).map (·.id) := by
      intro id
      rw [List.mem_cons, hids, List.map_append, List.mem_append, or_comm]
      simp
    rw [checkStepNames, hsplit]
    split_ifs with hid
    · refine ⟨rfl, fun h => ?_⟩
      exact (namesApart_snoc_iff.mp h.of_append).2.1 ((hids s.id).mp (by simpa using hid))
    have hid' : s.id ∉ before.map (·.id) := fun hmem => hid (by simpa using (hids s.id).mpr hmem)
    cases hresult : s.result? with
    | none =>
      have hsame : results (before ++ [s]) = results before := by
        rw [results_append]
        simp [results, hresult]
      exact ih (before ++ [s]) hids' (by rw [hsame]; exact htaken)
        (namesApart_snoc_iff.mpr ⟨hbefore, hid', by simp [hresult]⟩)
    | some name =>
      dsimp only
      cases hfirst : taken.find? name with
      | some first =>
        refine ⟨rfl, fun h => ?_⟩
        have hnew := ((namesApart_snoc_iff.mp h.of_append).2.2 name hresult).1
        rw [(htaken name).mpr hnew] at hfirst
        exact Option.some_ne_none _ hfirst.symm
      | none =>
        dsimp only
        split_ifs with hinput
        · refine ⟨rfl, fun h => ?_⟩
          exact ((namesApart_snoc_iff.mp h.of_append).2.2 name hresult).2 (by simpa using hinput)
        · refine ih (before ++ [s]) hids' (fun other => ?_)
            (namesApart_snoc_iff.mpr ⟨hbefore, hid', ?_⟩)
          · have hmem : other ∈ results [s] ↔ other = name := by
              rw [mem_results_singleton, hresult, Option.some.injEq, eq_comm]
            rw [Keyed.find?_cons, results_append, List.mem_append, hmem, not_or]
            by_cases heq : other = name <;> simp [heq, htaken]
          · intro other hother
            obtain rfl : name = other := by simpa [hresult] using hother
            exact ⟨(htaken name).mp hfirst, by simpa using hinput⟩

end NamesApart

/-- **The check of names.** -/
theorem ends_checkNames :
    Ends r.checkNames (fun _ => ¬r.RepeatsName)
      (fun e => e.kind = .duplicateId ∧ r.RepeatsName) := by
  rw [checkNames]
  cases hfirst : firstRepeated? [] r.inputNames with
  | some name =>
    refine ⟨rfl, Or.inl fun hnodup => ?_⟩
    rw [firstRepeated?_eq_none_iff.mpr ⟨hnodup, by simp⟩] at hfirst
    exact Option.some_ne_none _ hfirst.symm
  | none =>
    have hinputs := (firstRepeated?_eq_none_iff.mp hfirst).1
    refine (ends_checkStepNames [] (by simp) (by simp [Keyed.find?])
      ⟨by simp, by simp, by simp⟩).mono ?_ ?_
    · exact fun _ h => not_repeatsName_iff.mpr ⟨hinputs, h⟩
    · rintro e ⟨hkind, h⟩
      exact ⟨hkind, by_contra fun hno => h (not_repeatsName_iff.mp hno).2⟩

/-! ### Targets -/

/-- **Something names no step**: a target, or the declared first step. -/
def Dangles (r : Rule) : Prop :=
  (∃ s ∈ r.steps, ∃ target, some target ∈ s.targets ∧ target ∉ r.ids) ∨
    ∃ entry, r.entry = some entry ∧ entry ∉ r.ids

/-- **The check of targets.** -/
theorem ends_checkTargets :
    Ends r.checkTargets (fun _ => ¬r.Dangles)
      (fun e => e.kind = .danglingReference ∧ r.Dangles) := by
  rw [checkTargets]
  split
  next stepId target hfound =>
    refine ⟨rfl, Or.inl ?_⟩
    obtain ⟨s, hs, hfound⟩ := List.exists_of_findSome?_eq_some hfound
    obtain ⟨target, htarget, -⟩ := Option.map_eq_some_iff.mp hfound
    refine ⟨s, hs, target, Step.mem_successors.mp (List.mem_of_find?_eq_some htarget), ?_⟩
    have hno := List.find?_some htarget
    simpa [← hasStep_iff] using hno
  next hnone =>
    have htargets : ∀ s ∈ r.steps, ∀ target, some target ∈ s.targets → target ∈ r.ids := by
      intro s hs target htarget
      have hs' := Option.map_eq_none_iff.mp (List.findSome?_eq_none_iff.mp hnone s hs)
      have hstep := List.find?_eq_none.mp hs' target (Step.mem_successors.mpr htarget)
      exact hasStep_iff.mp (by simpa using hstep)
    cases hentry : r.entry with
    | none =>
      rintro (⟨s, hs, target, htarget, hno⟩ | ⟨entry, h, -⟩)
      · exact hno (htargets s hs target htarget)
      · exact absurd (hentry.symm.trans h) (by simp)
    | some entry =>
      dsimp only
      split_ifs with hstep
      · rintro (⟨s, hs, target, htarget, hno⟩ | ⟨entry', h, hno⟩)
        · exact hno (htargets s hs target htarget)
        · obtain rfl : entry = entry' := Option.some.inj (hentry.symm.trans h)
          exact hno (hasStep_iff.mp hstep)
      · exact ⟨rfl, Or.inr ⟨entry, hentry, fun hmem => hstep (hasStep_iff.mpr hmem)⟩⟩

/-! ### The first step -/

/-- **The steps that no step has as a target.** -/
def firsts (r : Rule) : List Step :=
  r.steps.filter fun s => ∀ t ∈ r.steps, some s.id ∉ t.targets

/-- **There is not one first step**, or the declared one is not it. -/
def LacksEntry (r : Rule) : Prop :=
  r.firsts.length ≠ 1 ∨ ∃ entry, r.entry = some entry ∧ ∀ s ∈ r.firsts, s.id ≠ entry

theorem mem_firsts {s : Step} :
    s ∈ r.firsts ↔ s ∈ r.steps ∧ ∀ t ∈ r.steps, some s.id ∉ t.targets := by
  simp [firsts]

theorem roots_eq : r.roots = r.firsts.map (·.id) := by
  rw [roots, List.filter_map, firsts]
  congr 1
  refine List.filter_congr fun s _ => Bool.eq_iff_iff.mpr ?_
  simp [isReferenced, Step.mem_successors]

/-- **The check of the first step** gives the only one. -/
theorem ends_checkEntry :
    Ends r.checkEntry
      (fun entry => ¬r.LacksEntry ∧ (∃ s, r.firsts = [s] ∧ s.id = entry) ∧
        ∀ declared, r.entry = some declared → declared = entry)
      (fun e => e.kind = .ambiguousEntry ∧ r.LacksEntry) := by
  rw [checkEntry, roots_eq]
  rcases hfirsts : r.firsts with _ | ⟨s, _ | ⟨t, rest⟩⟩
  · exact ⟨rfl, Or.inl (by simp [hfirsts])⟩
  · cases hentry : r.entry with
    | none =>
      refine ⟨?_, ⟨s, rfl, rfl⟩, by simp⟩
      simp [LacksEntry, hfirsts, hentry]
    | some entry =>
      simp only [List.map_cons, List.map_nil]
      split_ifs with heq
      · refine ⟨?_, ⟨s, rfl, rfl⟩, fun declared h => (Option.some.inj h).symm.trans heq⟩
        simp [LacksEntry, hfirsts, hentry, heq]
      · refine ⟨rfl, Or.inr ⟨entry, hentry, fun s' hs' => ?_⟩⟩
        obtain rfl : s' = s := by simpa [hfirsts] using hs'
        exact fun h => heq h.symm
  · exact ⟨rfl, Or.inl (by simp [hfirsts])⟩

/-! ### Ends -/

/-- **A run can end at a step that reports nothing**: some step leaves a target open. -/
def EndsOpen (r : Rule) : Prop :=
  ∃ s ∈ r.steps, none ∈ s.targets

/-- **The check of ends**, along all steps. -/
theorem ends_checkEnds {order : List String} (hunique : r.ids.Nodup)
    (horder : ∀ id, id ∈ order ↔ id ∈ r.ids) :
    Ends (r.checkEnds order) (fun _ => ¬r.EndsOpen)
      (fun e => e.kind = .unterminatedPath ∧ r.EndsOpen) := by
  have hopens : ∀ s ∈ r.steps,
      ((r.step? s.id).any fun s => s.targets.any Option.isNone) = true ↔ none ∈ s.targets := by
    intro s hs
    simp [step?_id hunique hs, List.any_eq_true, Option.isNone_iff_eq_none]
  rw [checkEnds]
  split
  next id hfound =>
    obtain ⟨s, hs, rfl⟩ := mem_ids.mp ((horder id).mp (List.mem_of_find?_eq_some hfound))
    have hopen := List.find?_some hfound
    exact ⟨rfl, s, hs, (hopens s hs).mp hopen⟩
  next hnone =>
    rintro ⟨s, hs, hopen⟩
    exact List.find?_eq_none.mp hnone s.id ((horder s.id).mpr (id_mem_ids hs))
      ((hopens s hs).mpr hopen)

end Rule

end RuleFlow
