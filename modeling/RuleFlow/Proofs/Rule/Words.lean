import RuleFlow.Proofs.Rule.Identity
import RuleFlow.Proofs.Rule.Reading
import RuleFlow.Proofs.Value.Brackets

/-!
# Reading words

Data types, operators, combinators, flags, targets and codes are read from words. Lists and records
are refused there: the text of either is no word. So the order of keys makes no difference, and such
a word is read alike from two values that differ in that order alone.

* `RuleFlow.Value.Reordered.goAlike_of_refused` is the argument.
* `RuleFlow.readFlag_alike`, `RuleFlow.DataType.read_alike`, `RuleFlow.Operator.read_alike` and
  their companions apply it to the readers.
-/

namespace RuleFlow

open Value (Reordered)

variable {ε α : Type} {v w raw raw' : Value} {s : String}

/-! ### Where lists and records are refused -/

theorem GoAlike.of_eq {x y : Except ε α} (h : x = y) : GoAlike x y Eq := by
  subst h
  cases x with
  | ok a => rfl
  | error e => trivial

theorem Value.Reordered.eq_or_structured (h : Reordered v w) :
    w = v ∨ v.isScalar = false ∧ w.isScalar = false := by
  rcases h.elim with ⟨-, rfl⟩ | ⟨_, _, rfl, rfl, -⟩ | ⟨_, _, rfl, rfl, -⟩
  · exact .inl rfl
  · exact .inr ⟨rfl, rfl⟩
  · exact .inr ⟨rfl, rfl⟩

/-- **Where lists and records are refused**, the order of keys makes no difference. -/
theorem Value.Reordered.goAlike_of_refused {f : Value → Except ε α} (h : Reordered v w)
    (hrefused : ∀ u : Value, u.isScalar = false → ∃ e, f u = .error e) :
    GoAlike (f v) (f w) Eq := by
  rcases h.eq_or_structured with rfl | ⟨hv, hw⟩
  · exact .of_eq rfl
  · obtain ⟨e, he⟩ := hrefused v hv
    obtain ⟨d, hd⟩ := hrefused w hw
    rw [he, hd]
    trivial

/-! ### Words that no bracketed text is -/

theorem Text.find?_eq_none_of_isBracketed (hs : Text.isBracketed s = true) (xs : List α)
    (name : α → String) (hnames : ∀ x ∈ xs, Text.isBracketed (name x) = false) :
    xs.find? (fun x => name x == s) = none := by
  refine List.find?_eq_none.mpr fun x hx => ?_
  simpa using (Text.ne_of_isBracketed hs (hnames x hx)).symm

theorem Operator.lookup_aliases_of_isBracketed (hs : Text.isBracketed s = true) :
    Operator.aliases.lookup s = none := by
  have hnames : ∀ x ∈ Operator.aliases, Text.isBracketed x.1 = false := by decide
  refine List.lookup_eq_none_iff.mpr fun x hx => ?_
  simpa using Text.ne_of_isBracketed hs (hnames x hx)

theorem not_mem_of_isBracketed (hs : Text.isBracketed s = true) (words : List String)
    (hwords : ∀ word ∈ words, Text.isBracketed word = false) : s ∉ words := by
  intro hmem
  exact Text.ne_of_isBracketed hs (hwords s hmem) rfl

/-! ### The readers -/

theorem readFlag_alike (h : Reordered raw raw') (path : String) :
    GoAlike (readFlag raw path) (readFlag raw' path) Eq := by
  refine h.goAlike_of_refused (f := fun raw => readFlag raw path) fun u hu => ?_
  have hword := Text.isBracketed_lower (Text.isBracketed_trim (Value.isBracketed_display hu))
  have hyes := not_mem_of_isBracketed hword yesWords (by decide)
  have hno := not_mem_of_isBracketed hword noWords (by decide)
  refine ⟨.badFlag u path, ?_⟩
  cases u with
  | list | record => simp [readFlag, hyes, hno]
  | _ => cases hu

theorem DataType.read_alike (h : Reordered raw raw') (path : String) :
    GoAlike (DataType.read raw path) (DataType.read raw' path) Eq := by
  refine h.goAlike_of_refused (f := fun raw => DataType.read raw path) fun u hu => ?_
  have hword := Text.isBracketed_upper (Value.isBracketed_display hu)
  have hnone : DataType.ofName? (Text.upper u.display) = none :=
    Text.find?_eq_none_of_isBracketed hword DataType.all DataType.name (by decide)
  refine ⟨.unknownType u path, ?_⟩
  cases u with
  | list | record => simp [DataType.read, Value.isAbsent, hnone]
  | _ => cases hu

theorem Operator.read_alike (h : Reordered raw raw') (path : String) :
    GoAlike (Operator.read raw path) (Operator.read raw' path) Eq := by
  refine h.goAlike_of_refused (f := fun raw => Operator.read raw path) fun u hu => ?_
  have hnull : u.isNull = false := by
    cases u with
    | null => cases hu
    | _ => rfl
  have hword := Text.isBracketed_trim (Value.isBracketed_display hu)
  have hnone : Operator.ofName? (Text.upper (Text.trim u.display)) = none :=
    Text.find?_eq_none_of_isBracketed (Text.isBracketed_upper hword) Operator.all Operator.name
      (by decide)
  have hnone' := Operator.lookup_aliases_of_isBracketed (Text.isBracketed_lower hword)
  have hor : Text.upper (Text.trim u.display) ≠ "OR" :=
    Text.ne_of_isBracketed (Text.isBracketed_upper hword) (by decide)
  refine ⟨.unknownOperator u path, ?_⟩
  simp [Operator.read, hnull, hnone, hnone', hor]

namespace Step

theorem readCombinator_alike (h : Reordered raw raw') (index : Nat) (path : String) :
    GoAlike (readCombinator raw index path) (readCombinator raw' index path) Eq := by
  rw [readCombinator, readCombinator]
  split_ifs
  · rfl
  -- A list or a record is told in brackets, so it is no combinator, whatever the order of its keys.
  have hword := (h.field "combinator").orElse (.refl (.text "AND"))
  rcases hword.eq_or_structured with heq | ⟨hv, hw⟩
  · rw [heq]
    dsimp only
    split <;> trivial
  · have hnone : ∀ u : Value, u.isScalar = false →
        Combinator.ofName? (Text.upper u.display) = none := fun u hu =>
      Text.find?_eq_none_of_isBracketed (Text.isBracketed_upper (Value.isBracketed_display hu))
        Combinator.all Combinator.name (by decide)
    dsimp only
    rw [hnone _ hv, hnone _ hw]
    trivial

theorem readTarget_alike (h : Reordered raw raw') (stepId stepId' label : String) :
    GoAlike (readTarget raw stepId label) (readTarget raw' stepId' label) Eq := by
  rcases h.eq_or_structured with rfl | ⟨hv, hw⟩
  · cases raw' <;> trivial
  · cases raw <;> cases raw' <;> trivial

theorem readCode_alike (h : Reordered raw raw') (stepId stepId' : String) :
    GoAlike (readCode raw stepId) (readCode raw' stepId') Eq := by
  rcases h.eq_or_structured with rfl | ⟨hv, hw⟩
  · rw [readCode, readCode]
    split_ifs
    · rfl
    cases raw'.toWhole with
    | ok code => rfl
    | error f =>
      dsimp only
      split_ifs <;> trivial
  · have hrefused : ∀ u : Value, u.isScalar = false → ∀ stepId,
        readCode u stepId = .error (.read (.badCode u stepId)) := by
      intro u hu stepId
      cases u with
      | list | record => rfl
      | _ => cases hu
    rw [hrefused _ hv, hrefused _ hw]
    trivial

end Step

/-! ### Parts of records -/

theorem isSome_eq_of_rel {x x' : Option Value} (h : Option.Rel Reordered x x') :
    x.isSome = x'.isSome := by
  cases h <;> rfl

theorem getD_of_rel {R : Value → Value → Prop} {x x' : Option Value} (h : Option.Rel R x x')
    (hnone : R v w) : R (x.getD v) (x'.getD w) := by
  cases h with
  | none => exact hnone
  | some hvw => exact hvw

theorem forall₂_set {entries entries' : Keyed Value}
    (h : List.Forall₂ (fun f g => f.1 = g.1 ∧ Reordered f.2 g.2) entries entries')
    (hvw : Reordered v w) (key : String) :
    List.Forall₂ (fun f g => f.1 = g.1 ∧ Reordered f.2 g.2) (entries.set key v)
      (entries'.set key w) := by
  induction h with
  | nil => exact .cons ⟨rfl, hvw⟩ .nil
  | @cons f g _ _ hfg hrest ih =>
    obtain ⟨name, v'⟩ := f
    obtain ⟨name', w'⟩ := g
    obtain ⟨rfl, hvw'⟩ : name = name' ∧ Reordered v' w' := hfg
    rw [Keyed.set, Keyed.set]
    split_ifs
    · exact .cons ⟨rfl, hvw⟩ hrest
    · exact .cons ⟨rfl, hvw'⟩ ih

/-- **Records that are put together** of related values are related. -/
theorem Value.Reordered.recordOf {fields fields' : List (String × Value)}
    (h : List.Forall₂ (fun f g => f.1 = g.1 ∧ Reordered f.2 g.2) fields fields') :
    Reordered (.recordOf fields) (.recordOf fields') := by
  refine .of_fields ?_
  suffices hbefore : ∀ before before' : Keyed Value,
      List.Forall₂ (fun f g => f.1 = g.1 ∧ Reordered f.2 g.2) before before' →
        List.Forall₂ (fun f g => f.1 = g.1 ∧ Reordered f.2 g.2)
          (fields.foldl (fun entries f => Keyed.set entries f.1 f.2) before)
          (fields'.foldl (fun entries f => Keyed.set entries f.1 f.2) before') from
    hbefore [] [] .nil
  induction h with
  | nil => exact fun _ _ hbefore => hbefore
  | @cons f g _ _ hfg _ ih =>
    obtain ⟨name, v⟩ := f
    obtain ⟨name', w⟩ := g
    obtain ⟨rfl, hvw⟩ : name = name' ∧ Reordered v w := hfg
    exact fun before before' hbefore => ih _ _ (forall₂_set hbefore hvw name)

/-! ### Sources -/

theorem readReference_alike (h : Reordered v w) (kind path : String) :
    GoAlike (readReference kind (some v) path) (readReference kind (some w) path) Eq := by
  refine h.goAlike_of_refused (f := fun v => readReference kind (some v) path) fun u hu => ?_
  refine ⟨.sourceNameless kind path, ?_⟩
  cases u with
  | list | record => rfl
  | _ => cases hu

mutual

/-- **A source** is read alike, whatever the order of keys. -/
theorem Source.read_alike (raw raw' : Value) (path : String) (h : Reordered raw raw') :
    GoAlike (Source.read raw path) (Source.read raw' path) (Source.Alike Reordered) := by
  rcases h.elim with ⟨hscalar, rfl⟩ | ⟨items, items', rfl, rfl, -⟩ |
    ⟨fields, fields', rfl, rfl, hfields⟩
  · cases raw' with
    | list | record => cases hscalar
    | _ => simp [Source.read]
  · simp [Source.read]
  · have hvalue := h.field "value"
    rw [Source.read_record, Source.read_record, Source.ofParts.eq_def, Source.ofParts.eq_def]
    rcases (h.field "type").eq_or_structured with hkind | ⟨hkind, hkind'⟩
    · rw [hkind]
      split
      next =>
        have htype := DataType.read_alike (h.field "dataType") path
        exact htype.map fun type type' htype => ⟨hvalue, htype⟩
      next => exact (readReference_alike hvalue _ path).map fun _ _ h => h
      next => exact (readReference_alike hvalue _ path).map fun _ _ h => h
      next =>
        -- The one has a list of items exactly if the other has.
        rcases hvalue.elim with ⟨hscalar, hsame⟩ | ⟨items, items', hlist, hlist', hitems⟩ |
          ⟨_, _, hrecord, hrecord', -⟩
        · rw [hsame]
          split
          next items hlist =>
            rw [hlist] at hscalar
            cases hscalar
          next => trivial
        · have hsmaller := Value.sizeOf_items_lt hlist
          rw [hlist, hlist']
          exact (Source.readItems_alike items items' path 0 hitems).map fun _ _ h => h
        · rw [hrecord, hrecord']
          trivial
      next => trivial
    · generalize (Value.record fields).field "type" = kind at hkind ⊢
      generalize (Value.record fields').field "type" = kind' at hkind' ⊢
      cases kind <;> cases kind' <;> trivial
termination_by sizeOf raw

/-- The items of a list of sources are read alike. -/
theorem Source.readItems_alike (items items' : List Value) (path : String) (index : Nat)
    (h : List.Forall₂ Reordered items items') :
    GoAlike (Source.readItems items path index) (Source.readItems items' path index)
      (Source.AlikeAll Reordered) := by
  cases h with
  | nil =>
    rw [Source.readItems]
    trivial
  | @cons item item' rest rest' hitem hrest =>
    rw [Source.readItems_cons, Source.readItems_cons]
    have hsource : GoAlike (Source.readItem item path index) (Source.readItem item' path index)
        (Source.Alike Reordered) := by
      rw [Source.readItem, Source.readItem, isSome_eq_of_rel (hitem.field? "type")]
      split_ifs
      · exact Source.read_alike item item' _ hitem
      · exact ⟨hitem, rfl⟩
    refine hsource.bind fun source source' hsource => ?_
    refine (Source.readItems_alike rest rest' path (index + 1) hrest).bind fun _ _ hsources => ?_
    exact ⟨hsource, hsources⟩
termination_by sizeOf items

end

end RuleFlow
