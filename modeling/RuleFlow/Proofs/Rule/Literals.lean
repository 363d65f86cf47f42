import Mathlib.Data.List.Induction
import RuleFlow.Proofs.Rule.Identity
import RuleFlow.Proofs.Rule.Reading

/-!
# The literals of a rule that was read

Literals and defaults are not looked into when a rule is read. They get into the rule as they stand
in the document, or are texts. So what holds of every part of a document holds of them.

* `RuleFlow.Value.IsJson.field` and its companions: the parts of a value of a document, and what
  reading puts together of them, are values of a document.
* `RuleFlow.Source.literals_read`, `RuleFlow.Step.literals_read` and `RuleFlow.Rule.literals_read`
  follow the literals through reading.
-/

namespace RuleFlow

open Value (IsJson)

/-! ### Parts of documents -/

theorem Keyed.nodup_keys_set {α : Type} {entries : Keyed α} {key : String} {value : α}
    (h : entries.keys.Nodup) : (entries.set key value).keys.Nodup := by
  induction entries with
  | nil => simp [set, keys]
  | cons entry rest ih =>
    obtain ⟨k, v⟩ := entry
    obtain ⟨hfirst, hrest⟩ := List.nodup_cons.mp h
    rw [set]
    split_ifs with hkey
    · exact h
    · refine List.nodup_cons.mpr ⟨fun hmem => hfirst ?_, ih hrest⟩
      obtain ⟨f, hf, rfl⟩ := List.mem_map.mp hmem
      rcases mem_set hf with hf | rfl
      · exact List.mem_map.mpr ⟨f, hf, rfl⟩
      · exact absurd rfl hkey

namespace Value.IsJson

variable {v w : Value} {fields : List (String × Value)} {items : List Value}

theorem find? (h : IsJson (.record fields)) {key : String}
    (hfound : Keyed.find? fields key = some v) : v.IsJson := by
  cases h with
  | record _ hfields =>
    obtain ⟨before, after, rfl, -⟩ := List.lookup_eq_some_iff.mp hfound
    exact hfields (key, v) (by simp)

/-- **What is looked up** in a value of a document is one. -/
theorem field (h : v.IsJson) (key : String) : (v.field key).IsJson := by
  cases v with
  | record fields =>
    rw [Value.field]
    cases hfound : Keyed.find? fields key with
    | none => exact .null
    | some w => exact h.find? hfound
  | _ => exact .null

theorem mem (h : IsJson (.list items)) (hv : v ∈ items) : v.IsJson := by
  cases h with
  | list hitems => exact hitems v hv

theorem orElse (hv : v.IsJson) (hw : w.IsJson) : (v.orElse w).IsJson := by
  rw [Value.orElse]
  split_ifs
  · exact hv
  · exact hw

/-- Giving a key a value of a document keeps a record one. -/
theorem set (h : IsJson (.record fields)) (hv : v.IsJson) (key : String) :
    IsJson (.record (Keyed.set fields key v)) := by
  cases h with
  | record hkeys hfields =>
    refine .record (Keyed.nodup_keys_set hkeys) fun f hf => ?_
    rcases Keyed.mem_set hf with hf | rfl
    · exact hfields f hf
    · exact hv

theorem recordOf (fields : List (String × Value)) (h : ∀ f ∈ fields, f.2.IsJson) :
    (Value.recordOf fields).IsJson := by
  induction fields using List.reverseRecOn with
  | nil => exact .record List.nodup_nil (List.forall_mem_nil _)
  | append_singleton rest f ih =>
    obtain ⟨hrest, hf⟩ := forall_mem_snoc.mp h
    rw [Value.recordOf, Keyed.ofPairs, List.foldl_append]
    exact (ih hrest).set hf f.1

theorem body (h : v.IsJson) : (Rule.body v).IsJson := by
  rw [Rule.body]
  split
  next inner hinner => exact hinner ▸ h.field "ruleFunction"
  next => exact h

end Value.IsJson

/-! ### Literals are parts of documents -/

mutual

/-- **The literals of a source** are parts of the value that it was read from. -/
theorem Source.literals_read (raw : Value) (path : String) (source : Source)
    (h : Source.read raw path = .ok source) (hraw : raw.IsJson) :
    ∀ v ∈ source.literals, v.IsJson := by
  cases raw with
  | record fields =>
    rw [Source.read_record, Source.ofParts.eq_def] at h
    split at h
    next =>
      obtain ⟨type, -, rfl⟩ := map_eq_ok.mp h
      exact List.forall_mem_singleton.mpr (hraw.field "value")
    next =>
      obtain ⟨name, -, rfl⟩ := map_eq_ok.mp h
      exact List.forall_mem_nil _
    next =>
      obtain ⟨name, -, rfl⟩ := map_eq_ok.mp h
      exact List.forall_mem_nil _
    next =>
      split at h
      next items hlist =>
        obtain ⟨sources, hsources, rfl⟩ := map_eq_ok.mp h
        have hitems : (Value.list items).IsJson := hlist ▸ hraw.field "value"
        have hsmaller := Value.sizeOf_items_lt hlist
        exact Source.literals_readItems items path 0 sources hsources fun w hw => hitems.mem hw
      next => cases h
    next => cases h
  | _ =>
    rw [Source.read] at h
    · cases h
    · exact fun _ hrecord => nomatch hrecord
termination_by sizeOf raw

/-- The literals of the items of a list of sources are parts of the items. -/
theorem Source.literals_readItems (items : List Value) (path : String) (index : Nat)
    (sources : List Source) (h : Source.readItems items path index = .ok sources)
    (hitems : ∀ w ∈ items, w.IsJson) : ∀ v ∈ Source.literalsOfAll sources, v.IsJson := by
  cases items with
  | nil =>
    rw [Source.readItems] at h
    obtain rfl := Except.ok.inj h
    exact List.forall_mem_nil _
  | cons item rest =>
    rw [Source.readItems_cons] at h
    obtain ⟨source, hsource, h⟩ := bind_eq_ok.mp h
    obtain ⟨sources, hsources, h⟩ := bind_eq_ok.mp h
    obtain rfl := Except.ok.inj h
    obtain ⟨hitem, hrest⟩ := List.forall_mem_cons.mp hitems
    rw [Source.literalsOfAll, List.forall_mem_append]
    refine ⟨?_, Source.literals_readItems rest path (index + 1) sources hsources hrest⟩
    rw [Source.readItem] at hsource
    split at hsource
    · exact Source.literals_read item _ source hsource hitem
    · obtain rfl := Except.ok.inj hsource
      exact List.forall_mem_singleton.mpr hitem
termination_by sizeOf items

end

theorem InputDecl.literals_read {raw : Value} {path : String} {d : InputDecl}
    (h : InputDecl.read raw path = .ok d) (hraw : raw.IsJson) : d.default.IsJson := by
  rw [InputDecl.read] at h
  split_ifs at h
  obtain ⟨type, -, h⟩ := bind_eq_ok.mp h
  obtain ⟨mandatory, -, h⟩ := bind_eq_ok.mp h
  obtain rfl := Except.ok.inj h
  exact hraw.field "default"

namespace Step

variable {raw next : Value} {id stepId path : String} {action : Action}

theorem literals_readArgument {a : Argument} (h : readArgument raw path = .ok a)
    (hraw : raw.IsJson) : ∀ v ∈ a.source.literals, v.IsJson := by
  cases raw with
  | record fields =>
    rw [readArgument] at h
    split at h
    next => cases h
    next data hdata =>
      obtain ⟨source, hsource, h⟩ := bind_eq_ok.mp h
      obtain rfl := Except.ok.inj h
      exact Source.literals_read data _ source hsource (hraw.find? hdata)
  | _ => cases h

theorem isJson_iterated {items : List Value} (h : iterated raw = .ok items) (hraw : raw.IsJson) :
    ∀ v ∈ items, v.IsJson := by
  cases raw with
  | list items' =>
    obtain rfl := Except.ok.inj h
    exact fun v hv => hraw.mem hv
  | text s =>
    obtain rfl := Except.ok.inj h
    simp only [List.forall_mem_map]
    exact fun c _ => .text _
  | record fields =>
    obtain rfl := Except.ok.inj h
    simp only [List.forall_mem_map]
    exact fun f _ => .text _
  | _ => cases h

theorem literals_readCall (h : readCall raw next stepId path = .ok action) (hraw : raw.IsJson) :
    ∀ v ∈ literals ⟨id, action⟩, v.IsJson := by
  rw [readCall] at h
  dsimp only at h
  split_ifs at h
  split at h
  next fields hfunction =>
    split_ifs at h
    obtain ⟨raws, hraws, h⟩ := bind_eq_ok.mp h
    obtain ⟨arguments, harguments, h⟩ := bind_eq_ok.mp h
    obtain ⟨next, -, h⟩ := bind_eq_ok.mp h
    obtain rfl := Except.ok.inj h
    have hfields : (Value.record fields).IsJson := hfunction ▸ hraw.field "subFunction"
    -- In the place of a list a text or a record may be gone through; what comes out are texts.
    have hlist := (hfields.field "inputParams").orElse (.list (List.forall_mem_nil _))
    have hitems := isJson_iterated (mapError_eq_ok.mp hraws) hlist
    simp only [literals, sources, List.forall_mem_flatMap, List.forall_mem_map]
    intro a ha
    obtain ⟨⟨raw, i⟩, hmem, ha⟩ := (mem_of_mapM_eq_ok harguments).2 a ha
    exact literals_readArgument (mapError_eq_ok.mp ha)
      (hitems raw (List.fst_mem_of_mem_zipIdx hmem))
  next => cases h

theorem isJson_side (hraw : raw.IsJson) {name : String} : (side raw name).IsJson := by
  refine (hraw.field name).orElse (.recordOf _ ?_)
  simp [hraw.field]

theorem literals_readCondition {index : Nat} {c : Condition}
    (h : readCondition raw index path = .ok c) (hraw : raw.IsJson) :
    ∀ source ∈ [c.lhs, c.rhs], ∀ v ∈ source.literals, v.IsJson := by
  cases raw with
  | record fields =>
    rw [readCondition] at h
    obtain ⟨combinator, -, h⟩ := bind_eq_ok.mp h
    obtain ⟨lhs, hlhs, h⟩ := bind_eq_ok.mp h
    obtain ⟨operator, -, h⟩ := bind_eq_ok.mp h
    obtain ⟨rhs, hrhs, h⟩ := bind_eq_ok.mp h
    obtain rfl := Except.ok.inj h
    simp only [List.forall_mem_cons, List.not_mem_nil, IsEmpty.forall_iff, implies_true, and_true]
    exact ⟨Source.literals_read _ _ lhs hlhs (isJson_side hraw),
      Source.literals_read _ _ rhs hrhs (isJson_side hraw)⟩
  | _ => cases h

theorem literals_readBranch (h : readBranch raw next stepId path = .ok action)
    (hraw : raw.IsJson) : ∀ v ∈ literals ⟨id, action⟩, v.IsJson := by
  rw [readBranch] at h
  split at h
  next first rest hconditions =>
    obtain ⟨conditions, hread, h⟩ := bind_eq_ok.mp h
    obtain ⟨targets, -, h⟩ := bind_eq_ok.mp h
    obtain ⟨onTrue, -, h⟩ := bind_eq_ok.mp h
    obtain ⟨onFalse, -, h⟩ := bind_eq_ok.mp h
    obtain rfl := Except.ok.inj h
    have hitems : (Value.list (first :: rest)).IsJson := hconditions ▸ hraw.field "conditions"
    simp only [literals, sources, List.forall_mem_flatMap]
    intro c hc
    obtain ⟨⟨raw, i⟩, hmem, hc⟩ := (mem_of_mapM_eq_ok hread).2 c hc
    exact literals_readCondition hc (hitems.mem (List.fst_mem_of_mem_zipIdx hmem))
  next => cases h

theorem literals_readMessage {message : Source} (h : readMessage raw path = .ok message)
    (hraw : raw.IsJson) : ∀ v ∈ message.literals, v.IsJson := by
  rw [readMessage.eq_def] at h
  split at h
  next => exact Source.literals_read _ _ message h hraw
  all_goals
    obtain rfl := Except.ok.inj h
    exact List.forall_mem_singleton.mpr (.text _)

theorem isJson_outputData (hraw : raw.IsJson) : (outputData raw).IsJson := by
  rw [outputData]
  split_ifs
  · have htext : ∀ key s, ((raw.field key).orElse (.text s)).IsJson := fun key s =>
      (hraw.field key).orElse (.text s)
    refine .recordOf _ ?_
    simp [hraw.field, htext]
  · exact hraw

theorem literals_readOutput (h : readOutput raw stepId path = .ok action) (hraw : raw.IsJson) :
    ∀ v ∈ literals ⟨id, action⟩, v.IsJson := by
  rw [readOutput] at h
  split at h
  next fields hdata =>
    have hfields : (Value.record fields).IsJson := hdata ▸ (hraw.field _).orElse (hraw.field _)
    have hdata' := isJson_outputData hfields
    dsimp only at h
    split_ifs at h
    · obtain ⟨value, hvalue, rfl⟩ := map_eq_ok.mp h
      have hliterals := Source.literals_read _ _ value (mapError_eq_ok.mp hvalue) hdata'
      simpa [literals, sources] using hliterals
    · obtain ⟨code, -, h⟩ := bind_eq_ok.mp h
      obtain ⟨message, hmessage, h⟩ := bind_eq_ok.mp h
      obtain rfl := Except.ok.inj h
      have hliterals := literals_readMessage (mapError_eq_ok.mp hmessage) (hdata'.field _)
      simpa [literals, sources] using hliterals
  next => cases h

/-- **The literals of a step** are parts of the value that it was read from. -/
theorem literals_read {s : Step} (h : read raw path = .ok s) (hraw : raw.IsJson) :
    ∀ v ∈ s.literals, v.IsJson := by
  cases raw with
  | record fields =>
    rw [read] at h
    dsimp only at h
    split at h
    next => cases h
    next =>
      split at h
      · obtain ⟨action, haction, h⟩ := bind_eq_ok.mp h
        obtain rfl := Except.ok.inj h
        exact literals_readCall haction hraw
      · obtain ⟨action, haction, h⟩ := bind_eq_ok.mp h
        obtain rfl := Except.ok.inj h
        exact literals_readBranch (mapError_eq_ok.mp haction) hraw
      · obtain ⟨action, haction, h⟩ := bind_eq_ok.mp h
        obtain rfl := Except.ok.inj h
        exact literals_readOutput haction hraw
      · cases h
  | _ => cases h

end Step

namespace Rule

variable {p : Value} {most : Option Int} {r : Rule}

/-- **The literals and defaults of a rule** are parts of the document that it was read from. -/
theorem literals_read (h : read p most = .ok r) (hp : p.IsJson) :
    ∀ v ∈ r.literals, v.IsJson := by
  by_cases hopens : ∃ inputs steps, Opens p most inputs steps
  · obtain ⟨rawInputs, rawSteps, hopens⟩ := hopens
    rw [read_of_opens hopens] at h
    obtain ⟨inputs, hinputs, h⟩ := bind_eq_ok.mp h
    obtain ⟨steps, hsteps, h⟩ := bind_eq_ok.mp h
    obtain rfl := Except.ok.inj h
    have hlist : ∀ key, (((body p).field key).orElse (.list [])).IsJson := fun key =>
      (hp.body.field key).orElse (.list (List.forall_mem_nil _))
    simp only [literals, assembled, List.forall_mem_append, List.forall_mem_map,
      List.forall_mem_flatMap]
    constructor
    · intro d hd
      obtain ⟨⟨raw, i⟩, hmem, hd⟩ := (mem_of_mapM_eq_ok hinputs).2 d hd
      have hraw := (hopens.inputList ▸ hlist "inputParams").mem (List.fst_mem_of_mem_zipIdx hmem)
      exact InputDecl.literals_read (mapError_eq_ok.mp hd) hraw
    · intro s hs
      obtain ⟨⟨raw, i⟩, hmem, hs⟩ := (mem_of_mapM_eq_ok hsteps).2 s hs
      have hraw := (hopens.stepList ▸ hlist "steps").mem (List.fst_mem_of_mem_zipIdx hmem)
      exact Step.literals_read hs hraw
  · obtain ⟨refusal, hrefusal⟩ := exists_refusal_of_not_opens fun inputs steps h =>
      hopens ⟨inputs, steps, h⟩
    exact nomatch hrefusal.symm.trans h

end Rule

end RuleFlow
