import RuleFlow.Proofs.Rule.Fingerprint
import RuleFlow.Proofs.Rule.StepOrder

/-!
# The canonical text and the order of keys

A document may be given with its keys in any order. Whether it is read as a rule does not depend on
that order, at any depth. Nor does the canonical text of the rule, with one exception: a list or a
record that stands in the place of a name or of a message is turned into its text, and that text
shows the order of keys.

* `RuleFlow.Rule.texts` are the values of a document that are turned into texts of its rule.
* `RuleFlow.Rule.read_alike` reads two documents side by side, and
  `RuleFlow.Rule.canonicalText_of_reordered` is the result.
* `RuleFlow.Rule.canonicalText_shows_key_order`: a record in the place of an identifier.
-/

namespace RuleFlow

open Value (Reordered)

variable {settled : Prop}

/-- **The values of a document whose texts become part of the rule**: the names in it, and the
messages of failures. -/
def Rule.texts (document : Value) : List Value :=
  [document.either "ruleId" "id", document.field "name", document.field "entry"] ++
    ((body document).field "inputParams").items.map (fun declaration => declaration.field "name") ++
    ((body document).field "steps").items.flatMap Step.texts

/-! ### Rules -/

namespace Rule

variable {p p' : Value}

theorem id_reordered (h : Reordered p p') :
    Reordered (p.either "ruleId" "id") (p'.either "ruleId" "id") :=
  (h.field _).orElse (h.field _)

theorem body_reordered (h : Reordered p p') : Reordered (body p) (body p') := by
  have hfunction := h.field "ruleFunction"
  rw [body.eq_def, body.eq_def]
  revert hfunction
  generalize p.field "ruleFunction" = function
  generalize p'.field "ruleFunction" = function'
  intro hfunction
  rcases hfunction.elim with ⟨hscalar, rfl⟩ | ⟨_, _, rfl, rfl, -⟩ | ⟨_, _, rfl, rfl, -⟩
  · cases function' with
    | record => exact .refl _
    | _ => exact h
  · exact h
  · exact hfunction

theorem isEmpty_trim_display {u : Value} (hu : u.isScalar = false) :
    (Text.trim u.display).isEmpty = false := by
  have hempty : Text.trim u.display ≠ "" :=
    Text.ne_of_isBracketed (Text.isBracketed_trim (Value.isBracketed_display hu)) (by decide)
  simpa using hempty

/-- **Whether a document has an identifier** does not depend on the order of keys. -/
theorem named_iff (h : Reordered p p') : Named p ↔ Named p' := by
  have hid := id_reordered h
  rw [Named, Named, hid.isNull_eq]
  rcases hid.eq_or_structured with heq | ⟨hv, hw⟩
  · rw [heq]
  · rw [isEmpty_trim_display hv, isEmpty_trim_display hw]

/-- **The lists of a document** are taken out of it alike. -/
theorem listOf_alike (h : Reordered p p') (key : String) (refusal refusal' : ReadError) :
    GoAlike (listOf p key refusal) (listOf p' key refusal')
      (fun items items' => List.Forall₂ Reordered items items' ∧ (p.field key).items = items) := by
  have hlist := (h.field key).orElse (.refl (.list []))
  rw [listOf.eq_def, listOf.eq_def]
  rcases hlist.elim with ⟨hscalar, heq⟩ | ⟨items, items', heq, heq', hitems⟩ |
    ⟨_, _, heq, heq', -⟩
  · rw [heq]
    generalize (p.field key).orElse (.list []) = list at hscalar
    cases list with
    | list => cases hscalar
    | _ => trivial
  · rw [heq, heq']
    exact ⟨hitems, Value.items_of_orElse heq⟩
  · rw [heq, heq']
    trivial

theorem readInputs_alike {inputs inputs' : List Value} (h : List.Forall₂ Reordered inputs inputs')
    (htexts : settled → ∀ raw ∈ inputs, (raw.field "name").hasOneOrder = true) :
    GoAlike (readInputs inputs) (readInputs inputs')
      (List.Forall₂ fun d d' => settled → d.Alike Reordered d') := by
  refine endAlike_mapM_zipIdx h fun raw hraw raw' i hreordered => ?_
  exact (InputDecl.read_alike hreordered _ fun hsettled => htexts hsettled raw hraw).mapError
    fun _ _ _ => trivial

theorem readSteps_alike {steps steps' : List Value} (h : List.Forall₂ Reordered steps steps')
    (htexts : settled → ∀ raw ∈ steps, ∀ v ∈ Step.texts raw, v.hasOneOrder = true) :
    GoAlike (readSteps steps) (readSteps steps')
      (List.Forall₂ fun s s' => settled → s.Alike Reordered s') :=
  endAlike_mapM_zipIdx h fun raw hraw _ _ hreordered =>
    Step.read_alike hreordered _ fun hsettled => htexts hsettled raw hraw

/-- **Rules are put together alike.** -/
theorem assembled_alike (h : Reordered p p') {inputs inputs' : List InputDecl}
    {steps steps' : List Step} (htexts : ∀ v ∈ texts p, v.hasOneOrder = true)
    (hinputs : List.Forall₂ (InputDecl.Alike Reordered) inputs inputs')
    (hsteps : List.Forall₂ (Step.Alike Reordered) steps steps') :
    (assembled p inputs steps).Alike Reordered (assembled p' inputs' steps') := by
  simp only [texts, List.forall_mem_append, List.forall_mem_cons] at htexts
  obtain ⟨⟨⟨hid, hname, hentry, -⟩, -⟩, -⟩ := htexts
  have hid' := (id_reordered h).display_eq hid
  refine ⟨hid', ?_, hinputs, hsteps, ?_⟩
  · refine Reordered.display_eq ((h.field "name").orElse (.of_eq (congrArg _ hid'))) ?_
    exact Value.hasOneOrder_orElse hname rfl
  · rw [assembled, assembled]
    dsimp only
    rw [(h.field "entry").isNull_eq, (h.field "entry").display_eq hentry]

/-- **A document is read alike**, whatever the order of keys. -/
theorem read_alike (h : Reordered p p') (most : Option Int) :
    GoAlike (read p most) (read p' most)
      (fun r r' => (∀ v ∈ texts p, v.hasOneOrder = true) → r.Alike Reordered r') := by
  -- Nothing else is read of a document without an identifier.
  by_cases hnamed : Named p
  · have hbody := body_reordered h
    rw [read_of_named hnamed, read_of_named ((named_iff h).mp hnamed)]
    dsimp only
    refine ((listOf_alike hbody "inputParams" _ _).mapError fun _ _ _ => trivial).bind ?_
    rintro inputs inputs' ⟨hinputs, hinputs'⟩
    refine ((listOf_alike hbody "steps" _ _).mapError fun _ _ _ => trivial).bind ?_
    rintro steps steps' ⟨hsteps, hsteps'⟩
    rw [hsteps.length_eq]
    split
    · trivial
    -- The items of both lists are items of the document, so that their texts are texts of it.
    have htexts : (∀ v ∈ texts p, v.hasOneOrder = true) →
        (∀ raw ∈ inputs, (raw.field "name").hasOneOrder = true) ∧
          ∀ raw ∈ steps, ∀ v ∈ Step.texts raw, v.hasOneOrder = true := by
      intro htexts
      rw [texts, hinputs', hsteps'] at htexts
      simp only [List.forall_mem_append, List.forall_mem_map, List.forall_mem_flatMap] at htexts
      exact ⟨htexts.1.2, htexts.2⟩
    refine (readInputs_alike hinputs fun h => (htexts h).1).bind fun _ _ hinputs => ?_
    refine (readSteps_alike hsteps fun h => (htexts h).2).bind fun _ _ hsteps => ?_
    exact fun htexts => assembled_alike h htexts (hinputs.imp fun _ _ h => h htexts)
      (hsteps.imp fun _ _ h => h htexts)
  · obtain ⟨e, he⟩ := exists_refusal_of_not_named hnamed most
    obtain ⟨d, hd⟩ := exists_refusal_of_not_named (fun h' => hnamed ((named_iff h).mpr h')) most
    rw [he, hd]
    trivial

/-- **The order of keys does not matter.** A document with keys in another order, at any depth, is
read if and only if the first one is. If the values whose texts become part of the rule have one
order, the two rules have one canonical text. The canonical form of a value is canonical. -/
theorem canonicalText_of_reordered (h : Reordered p p') (most : Option Int) :
    ((∃ r, read p most = .ok r) ↔ ∃ r', read p' most = .ok r') ∧
      ((∀ v ∈ texts p, v.hasOneOrder = true) →
        ∀ r r', read p most = .ok r → read p' most = .ok r' → r.canonicalText = r'.canonicalText) ∧
      ∀ v : Value, v.canonical.canonical = v.canonical := by
  have halike := read_alike h most
  refine ⟨halike.exists_ok_iff, fun htexts r r' hr hr' => ?_, Value.canonical_canonical⟩
  rw [hr, hr'] at halike
  have hform := (halike htexts).imp fun v _ w _ hvw => (hvw.canonical_eq : Value.SameForm v w)
  exact congrArg (Json.write Json.compact) (sameForm_iff.mpr hform)

end Rule

theorem reordered_literalDocument {v w : Value} (h : Reordered v w) :
    Reordered (literalDocument v) (literalDocument w) :=
  .value [("id", .text "r")] "steps" [] <| .item [] [] <|
    .value [("id", .text "s"), ("type", .text "output")] "data" [] <|
      .value [("type", .text "static")] "value" [] h

theorem pair_reordered : Reordered pair pairReversed :=
  .swap [] ("a", _) ("b", _) [] (by decide)

set_option maxRecDepth 10000 in
theorem pair_canonicalText_eq :
    Reordered (literalDocument pair) (literalDocument pairReversed) ∧
      (literalRule pair).canonicalText = (literalRule pairReversed).canonicalText := by
  have h := reordered_literalDocument pair_reordered
  obtain ⟨-, htext, -⟩ := Rule.canonicalText_of_reordered h none
  exact ⟨h, htext (by decide) _ _ (read_literalDocument pair) (read_literalDocument pairReversed)⟩

/-! ### A record in the place of a name -/

/-- A document without inputs and steps. -/
def bareDocument (id : Value) : Value :=
  .record [("id", id), ("steps", .list [])]

/-- A rule without inputs and steps. -/
def bareRule (id : String) : Rule :=
  { id, name := id }

/-- **A list or a record in the place of an identifier** gives the rule its text. -/
theorem read_bareDocument {id : Value} (hscalar : id.isScalar = false) :
    Rule.read (bareDocument id) = .ok (bareRule id.display) := by
  have hnull : id.isNull = false := by
    cases id with
    | null => cases hscalar
    | _ => rfl
  have hnamed : Rule.Named (bareDocument id) := by
    change ¬(id.isNull = true ∨ (Text.trim id.display).isEmpty = true)
    simp [hnull, Rule.isEmpty_trim_display hscalar]
  rw [Rule.read_of_opens ⟨hnamed, rfl, rfl, by simp⟩]
  rfl

/-- Rules without inputs and steps have one canonical text only if they have one identifier. -/
theorem id_eq_of_canonicalText_eq {id id' : String}
    (h : (bareRule id).canonicalText = (bareRule id').canonicalText) : id = id' := by
  have halike := (Rule.sameForm_iff_canonicalText_eq
    fun _ hx => absurd hx List.not_mem_nil).mpr h
  exact halike.id

set_option maxRecDepth 10000 in
/-- **The order of keys in the place of an identifier** can be seen in the canonical text. -/
theorem Rule.canonicalText_shows_key_order :
    ¬∀ p p' : Value, Reordered p p' → ∀ r r', read p = .ok r → read p' = .ok r' →
      r.canonicalText = r'.canonicalText := by
  intro hignored
  have hpair : Reordered (bareDocument (.record [("a", .int 1), ("b", .int 2)]))
      (bareDocument (.record [("b", .int 2), ("a", .int 1)])) :=
    .value [] "id" _ (.swap [] ("a", .int 1) ("b", .int 2) [] (by decide))
  have htext := hignored _ _ hpair _ _ (read_bareDocument rfl) (read_bareDocument rfl)
  exact absurd (id_eq_of_canonicalText_eq htext) (by decide)

end RuleFlow
