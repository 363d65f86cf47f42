import RuleFlow.Proofs.Graph.Availability

/-!
# The verdict on a rule

The checks of a rule are made one after the other, and the later ones rely on what the earlier ones
have established. This file puts them together: the analysis of a rule is decided by the first of
seven flaws that the rule has, and a rule that has none of them is accepted.

* `RuleFlow.Rule.flaws` lists the flaws in the order in which they count.
* `RuleFlow.Rule.firstFlaw_iff_verdict` is the decision.
* `RuleFlow.Rule.Checked` is what is known of an accepted rule; the laws of its runs build on it.
* `RuleFlow.Rule.defined_iff_on_every_way`: what the analysis says is there when a step is reached.
-/

namespace RuleFlow

namespace Rule

variable {r : Rule} {a : Analysis} {first s : Step}

/-! ### Flaws in order -/

/-- **A step reads what may have no value**, where the ways begin at a step that follows none. -/
def ReadsUndefined (r : Rule) : Prop :=
  ∃ first ∈ r.firsts, ∃ s ∈ r.steps, r.ReadsUnknown first.id s

/-- **The flaws of a rule**, in the order in which they count, each with the kind of error that it
is told by. -/
def flaws (r : Rule) : List (Prop × ErrorKind) :=
  [(r.RepeatsName, .duplicateId),
    (r.Dangles, .danglingReference),
    (r.steps = [], .ambiguousEntry),
    (r.Circles, .cycle),
    (r.LacksEntry, .ambiguousEntry),
    (r.ReadsUndefined, .unresolvedVariable),
    (r.EndsOpen, .unterminatedPath)]

/-- **The first flaw that is there**, if any, by its kind of error. -/
inductive FirstFlaw : List (Prop × ErrorKind) → Option ErrorKind → Prop
  /-- There is no flaw left to look for. -/
  | none : FirstFlaw [] none
  /-- The first flaw is there. -/
  | here {flaw : Prop} {kind : ErrorKind} {rest : List (Prop × ErrorKind)} :
      flaw → FirstFlaw ((flaw, kind) :: rest) (some kind)
  /-- The first flaw is not there, and what counts comes later. -/
  | later {flaw : Prop} {kind : ErrorKind} {rest : List (Prop × ErrorKind)}
      {found : Option ErrorKind} :
      ¬flaw → FirstFlaw rest found → FirstFlaw ((flaw, kind) :: rest) found

/-- Only one flaw is the first. -/
theorem FirstFlaw.unique {flaws : List (Prop × ErrorKind)} {found found' : Option ErrorKind}
    (h : FirstFlaw flaws found) (h' : FirstFlaw flaws found') : found = found' := by
  induction h with
  | none =>
    cases h'
    rfl
  | here hflaw =>
    cases h' with
    | here => rfl
    | later hno _ => exact absurd hflaw hno
  | later hno _ ih =>
    cases h' with
    | here hflaw => exact absurd hflaw hno
    | later _ hrest => exact ih hrest

/-- **The verdict of the analysis**: the kind of its error, or none if the rule is accepted. -/
def verdict (r : Rule) : Option ErrorKind :=
  match r.analyze with
  | .ok _ => none
  | .error e => some e.kind

/-! ### Where the walk starts -/

/-- The walk starts at a step. -/
theorem start_mem_ids (hdangle : ¬r.Dangles) (hfirst : first ∈ r.steps) :
    r.start first ∈ r.ids := by
  have hroot : r.roots.headD first.id ∈ r.ids := by
    rw [roots_eq]
    rcases hfirsts : r.firsts with _ | ⟨s, rest⟩
    · exact id_mem_ids hfirst
    · exact id_mem_ids (mem_firsts.mp (by simp [hfirsts])).1
  rw [start]
  cases hentry : r.entry with
  | none => exact hroot
  | some entry =>
    have hmem : entry ∈ r.ids := by
      by_contra hno
      exact hdangle (Or.inr ⟨entry, hentry, hno⟩)
    dsimp only
    rwa [if_pos (hasStep_iff.mpr hmem)]

/-- **The walk starts at the first step**, if there is one first step and no other is declared. -/
theorem start_eq (hdangle : ¬r.Dangles) (hfirsts : r.firsts = [s])
    (hdeclared : ∀ declared, r.entry = some declared → declared = s.id) :
    r.start first = s.id := by
  rw [start, roots_eq, hfirsts]
  cases hentry : r.entry with
  | none => rfl
  | some entry =>
    have hmem : entry ∈ r.ids := by
      by_contra hno
      exact hdangle (Or.inr ⟨entry, hentry, hno⟩)
    dsimp only
    rw [if_pos (hasStep_iff.mpr hmem), hdeclared entry hentry]

/-! ### All checks -/

/-- **What is known of an accepted rule** and of its analysis. -/
structure Checked (r : Rule) (a : Analysis) : Prop where
  /-- No name is given twice. -/
  apart : ¬r.RepeatsName
  /-- Every target is a step. -/
  closed : ¬r.Dangles
  /-- There are steps. -/
  nonempty : r.steps ≠ []
  /-- There is no circle. -/
  acyclic : ¬r.Circles
  /-- There is one first step. -/
  single : ¬r.LacksEntry
  /-- The first step is the one that the analysis tells. -/
  entry : ∃ s, r.firsts = [s] ∧ s.id = a.entry
  /-- The order of the analysis is one of all steps. -/
  ordered : r.Ordered a.entry a.order
  /-- What the analysis knows to be there is what every way produces. -/
  tracked : r.Tracks a.entry a.order a.defined
  /-- No step reads what may have no value. -/
  known : ∀ s ∈ r.steps, ¬r.ReadsUnknown a.entry s
  /-- Every run ends at a step that reports. -/
  total : ¬r.EndsOpen

/-- Every place after a step of an accepted rule names a step. -/
theorem Checked.exists_target (h : r.Checked a) (hs : s ∈ r.steps) {target : Option String}
    (htarget : target ∈ s.targets) : ∃ id ∈ r.ids, target = some id := by
  cases target with
  | none => exact absurd ⟨s, hs, htarget⟩ h.total
  | some id =>
    refine ⟨id, ?_, rfl⟩
    by_contra hno
    exact h.closed (Or.inl ⟨s, hs, id, htarget, hno⟩)

/-- The first step of an accepted rule is a step. -/
theorem Checked.entry_mem (h : r.Checked a) : a.entry ∈ r.ids := by
  obtain ⟨first, hfirsts, hentry⟩ := h.entry
  have hfirst : first ∈ r.firsts := by simp [hfirsts]
  exact hentry ▸ id_mem_ids (mem_firsts.mp hfirst).1

/-- An accepted rule has none of the flaws. -/
theorem Checked.firstFlaw (h : r.Checked a) : FirstFlaw r.flaws none := by
  have hknown : ¬r.ReadsUndefined := by
    rintro ⟨first, hfirst, s, hs, hread⟩
    obtain ⟨only, hfirsts, hid⟩ := h.entry
    obtain rfl : first = only := by simpa [hfirsts] using hfirst
    exact h.known s hs (hid ▸ hread)
  exact .later h.apart <| .later h.closed <| .later h.nonempty <| .later h.acyclic <|
    .later h.single <| .later hknown <| .later h.total .none

/-- **The checks together**: each relies on those before it, so that the error told is that of the
first flaw. -/
theorem ends_analyze : Ends r.analyze r.Checked (fun e => FirstFlaw r.flaws (some e.kind)) := by
  rw [analyze]
  refine (ends_checkNames.mono (fun _ h => h) fun e he => ?names).bind fun _ hapart => ?_
  case names =>
    rw [he.1]
    exact .here he.2
  refine (ends_checkTargets.mono (fun _ h => h) fun e he => ?targets).bind fun _ hclosed => ?_
  case targets =>
    rw [he.1]
    exact .later hapart (.here he.2)
  have hunique : r.ids.Nodup := (not_repeatsName_iff.mp hapart).2.ids
  cases hsteps : r.steps with
  | nil => exact .later hapart (.later hclosed (.here hsteps))
  | cons first rest =>
    have hnonempty : r.steps ≠ [] := by simp [hsteps]
    have hstart := start_mem_ids hclosed (show first ∈ r.steps by simp [hsteps])
    dsimp only
    refine ((ends_checkCircles hunique hclosed hstart).mono (fun _ h => h)
      fun e he => ?circles).bind fun order ⟨⟨hsorted, hmem, hknown⟩, all, hall, hids⟩ => ?_
    case circles =>
      obtain ⟨path, rfl, hpath⟩ := he
      exact .later hapart (.later hclosed (.later hnonempty
        (.here (circles_of_isCircle hunique hpath))))
    have hacyclic := not_circles_of_sorted hunique hall fun id => (hids id).mpr
    refine (ends_checkEntry.mono (fun _ h => h) fun e he => ?entry).bind
      fun entry ⟨hsingle, hentry, hdeclared⟩ => ?_
    case entry =>
      rw [he.1]
      exact .later hapart (.later hclosed (.later hnonempty (.later hacyclic (.here he.2))))
    obtain ⟨s, hfirsts, rfl⟩ := hentry
    -- The walk was made before the first step was checked; it did start there.
    rw [start_eq hclosed hfirsts hdeclared] at hmem
    have hordered := ordered_of_walk hunique hall hids hsorted hknown hfirsts hmem
    refine ((ends_availability hordered (List.nil_append order).symm .start).mono
      (fun _ h => h) fun e he => ?known).bind fun defined ⟨htracks, hread⟩ => ?_
    case known =>
      obtain ⟨hkind, t, ht, hflaw⟩ := he
      rw [hkind]
      exact .later hapart (.later hclosed (.later hnonempty (.later hacyclic (.later hsingle
        (.here ⟨s, by simp [hfirsts], t, ht, hflaw⟩)))))
    have hread' : ∀ t ∈ r.steps, ¬r.ReadsUnknown s.id t := fun t ht =>
      hread t ht ((hordered.mem_iff _).mpr (id_mem_ids ht))
    have hchecked : ¬r.EndsOpen → r.Checked { entry := s.id, order, defined } := fun htotal =>
      ⟨hapart, hclosed, hnonempty, hacyclic, hsingle, ⟨s, hfirsts, rfl⟩, hordered, htracks,
        hread', htotal⟩
    refine ((ends_checkEnds hunique hordered.mem_iff).mono (fun _ h => h) fun e he => ?ends).bind
      fun _ htotal => hchecked htotal
    case ends =>
      rw [he.1]
      have hnone : ¬r.ReadsUndefined := by
        rintro ⟨first, hfirst, t, ht, hflaw⟩
        obtain rfl : first = s := by simpa [hfirsts] using hfirst
        exact hread' t ht hflaw
      exact .later hapart (.later hclosed (.later hnonempty (.later hacyclic (.later hsingle
        (.later hnone (.here he.2))))))

theorem checked_of_analyze (h : r.analyze = .ok a) : r.Checked a :=
  ends_analyze.of_ok h

/-- **The analysis is decided by the first flaw**: it tells the kind of error of that flaw, and
accepts a rule without flaws. -/
theorem firstFlaw_iff_verdict (r : Rule) (found : Option ErrorKind) :
    FirstFlaw r.flaws found ↔ r.verdict = found := by
  have hends := r.ends_analyze
  have hverdict : FirstFlaw r.flaws r.verdict := by
    rw [verdict]
    cases h : r.analyze with
    | ok a => exact (hends.of_ok h).firstFlaw
    | error e => exact hends.of_error h
  constructor
  · exact fun h => hverdict.unique h
  · rintro rfl
    exact hverdict

/-- **What is there when a step is reached**: the analysis tells it of every step, and tells exactly
the results of the calls that every way from the first step to that step has passed. -/
theorem defined_iff_on_every_way (h : r.analyze = .ok a) (hs : s ∈ r.steps) :
    (∃ passed, r.Way a.entry passed s.id) ∧
      ∃ names, a.defined.find? s.id = some names ∧ names.Nodup ∧
        ∀ name, name ∈ names ↔
          ∀ passed, r.Way a.entry passed s.id → name ∈ results passed := by
  have hchecked := checked_of_analyze h
  exact ⟨hchecked.ordered.reached s.id (id_mem_ids hs), hchecked.tracked.find? hchecked.ordered hs⟩

/-! ### A fork -/

/-- Where the two ways of `fork` come together. -/
def join : Step :=
  { id := "join", action := .output (.success (.variable "before")) }

/-- A rule with a call before a fork and a call on each of its two ways. -/
def fork : Rule :=
  { id := "fork", name := "Fork"
    steps := [join,
      { id := "left", action := .call "low" "f" [] (some "join") },
      { id := "test", action := .branch [] (some "left") (some "right") },
      { id := "first", action := .call "before" "f" [] (some "test") },
      { id := "right", action := .call "high" "f" [] (some "join") }] }

/-- What is known of `fork`: at the join, only the result of the call before the fork is there. -/
def forked : Analysis :=
  { entry := "first", order := ["first", "test", "right", "left", "join"]
    defined := [("first", []), ("test", ["before"]), ("left", ["before"]), ("right", ["before"]),
      ("join", ["before"])] }

theorem forked_defined_at_join :
    fork.analyze = .ok forked ∧ join ∈ fork.steps ∧
      (∃ passed, fork.Way forked.entry passed join.id) ∧
        ∃ names, forked.defined.find? join.id = some names ∧ names.Nodup ∧
          ∀ name, name ∈ names ↔
            ∀ passed, fork.Way forked.entry passed join.id → name ∈ results passed :=
  ⟨rfl, List.mem_cons_self, defined_iff_on_every_way (r := fork) rfl List.mem_cons_self⟩

end Rule

end RuleFlow
