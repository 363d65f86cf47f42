import RuleFlow.Proofs.Value.Canonical

/-!
# The identity of rules

A rule is written as a value in which every part carries its kind. This file shows that the
canonical form of that value tells everything of the rule but what the canonical forms of its
literals and defaults forget.

* `RuleFlow.Rule.Alike` says that two rules are equal part by part, their literals and defaults up
  to a relation of values. `RuleFlow.Source.Alike` and its companions say it of the parts.
* `RuleFlow.Rule.sameForm_iff` is the result: the canonical forms are equal exactly if the rules are
  alike up to the canonical form of literals and defaults.
* `RuleFlow.Rule.literals` are the literals and defaults of a rule, and `RuleFlow.Rule.Alike.imp`
  passes from one relation of them to another.
-/

namespace RuleFlow

variable {same same' : Value → Value → Prop}

/-! ### Rules that are alike -/

mutual

/-- **Sources that are alike**: of one kind and one content, and literals of one declared type,
their values up to a relation. -/
def Source.Alike (same : Value → Value → Prop) : Source → Source → Prop
  | .literal v type, .literal w type' => same v w ∧ type = type'
  | .input name, .input name' => name = name'
  | .variable name, .variable name' => name = name'
  | .array items, .array items' => Source.AlikeAll same items items'
  | _, _ => False

/-- Lists of sources that are alike, item by item. -/
def Source.AlikeAll (same : Value → Value → Prop) : List Source → List Source → Prop
  | [], [] => True
  | source :: rest, source' :: rest' =>
    source.Alike same source' ∧ Source.AlikeAll same rest rest'
  | _, _ => False

end

/-- **Arguments that are alike.** -/
structure Argument.Alike (same : Value → Value → Prop) (a a' : Argument) : Prop where
  /-- Their sources are alike. -/
  source : a.source.Alike same a'.source
  /-- They are for one parameter. -/
  parameter : a.parameter = a'.parameter

/-- **Conditions that are alike.** -/
structure Condition.Alike (same : Value → Value → Prop) (c c' : Condition) : Prop where
  /-- Their left sides are alike. -/
  lhs : c.lhs.Alike same c'.lhs
  /-- They compare alike. -/
  operator : c.operator = c'.operator
  /-- Their right sides are alike. -/
  rhs : c.rhs.Alike same c'.rhs
  /-- They join those before them alike. -/
  combinator : c.combinator = c'.combinator

/-- **Reports that are alike.** -/
def Report.Alike (same : Value → Value → Prop) : Report → Report → Prop
  | .success value, .success value' => value.Alike same value'
  | .failure code message, .failure code' message' => code = code' ∧ message.Alike same message'
  | _, _ => False

/-- **Actions that are alike.** -/
def Action.Alike (same : Value → Value → Prop) : Action → Action → Prop
  | .call result function arguments next, .call result' function' arguments' next' =>
    result = result' ∧ function = function' ∧
      List.Forall₂ (Argument.Alike same) arguments arguments' ∧ next = next'
  | .branch conditions onTrue onFalse, .branch conditions' onTrue' onFalse' =>
    List.Forall₂ (Condition.Alike same) conditions conditions' ∧ onTrue = onTrue' ∧
      onFalse = onFalse'
  | .output report, .output report' => report.Alike same report'
  | _, _ => False

/-- **Steps that are alike.** -/
structure Step.Alike (same : Value → Value → Prop) (s s' : Step) : Prop where
  /-- They have one name. -/
  id : s.id = s'.id
  /-- They do alike. -/
  action : s.action.Alike same s'.action

/-- **Declarations that are alike.** -/
structure InputDecl.Alike (same : Value → Value → Prop) (d d' : InputDecl) : Prop where
  /-- They declare one name. -/
  name : d.name = d'.name
  /-- They declare one type. -/
  type : d.type = d'.type
  /-- Both have to be given, or neither. -/
  mandatory : d.mandatory = d'.mandatory
  /-- Their defaults are related. -/
  default : same d.default d'.default

/-- **Rules that are alike**: equal part by part, in one order, their literals and defaults up to a
relation. -/
structure Rule.Alike (same : Value → Value → Prop) (r r' : Rule) : Prop where
  /-- They have one identifier. -/
  id : r.id = r'.id
  /-- They have one name. -/
  name : r.name = r'.name
  /-- Their inputs are declared alike. -/
  inputs : List.Forall₂ (InputDecl.Alike same) r.inputs r'.inputs
  /-- Their steps are alike. -/
  steps : List.Forall₂ (Step.Alike same) r.steps r'.steps
  /-- They declare one first step. -/
  entry : r.entry = r'.entry

/-! ### Canonical forms of parts -/

namespace Value

/-- **Values of one canonical form.** -/
def SameForm (v w : Value) : Prop :=
  v.canonical = w.canonical

/-- Lists have one form exactly if their items have, one by one. -/
theorem sameForm_list_map {α : Type} {f : α → Value} {R : α → α → Prop} {xs ys : List α}
    (hR : ∀ x y, SameForm (f x) (f y) ↔ R x y) :
    SameForm (.list (xs.map f)) (.list (ys.map f)) ↔ List.Forall₂ R xs ys := by
  have hlist : SameForm (.list (xs.map f)) (.list (ys.map f)) ↔
      (xs.map f).map canonical = (ys.map f).map canonical := by
    rw [SameForm, canonical, canonical, Value.list.injEq, canonicalItems_eq_map,
      canonicalItems_eq_map]
  rw [hlist, List.map_map, List.map_map, map_eq_map_iff_forall₂]
  exact ⟨fun h => h.imp fun x y => (hR x y).mp, fun h => h.imp fun x y => (hR x y).mpr⟩

theorem sameForm_text {s t : String} : SameForm (.text s) (.text t) ↔ s = t := by
  simp [SameForm, canonical]

theorem sameForm_bool {b c : Bool} : SameForm (.bool b) (.bool c) ↔ b = c := by
  simp [SameForm, canonical]

theorem sameForm_int {m n : Int} : SameForm (.int m) (.int n) ↔ m = n := by
  simp [SameForm, canonical]

theorem sameForm_ofText? {s t : Option String} :
    SameForm (.ofText? s) (.ofText? t) ↔ s = t := by
  cases s <;> cases t <;> simp [SameForm, ofText?, canonical]

end Value

open Value (SameForm sameForm_text sameForm_bool sameForm_int sameForm_ofText?
  sameForm_list_map)

/-- **Two parts of one form** have fields of one form. -/
theorem sameForm_field {kind kind' : String} {fields fields' : Keyed Value}
    (h : SameForm (taggedPart kind fields) (taggedPart kind' fields')) (key : String) :
    SameForm ((taggedPart kind fields).field key) ((taggedPart kind' fields').field key) := by
  have hfield := congrArg (fun v : Value => v.field key) h
  simp only [taggedPart, Value.field_canonical] at hfield
  exact hfield

/-- **Parts of different kinds** never have one form. -/
theorem not_sameForm_of_kind {kind kind' : String} {fields fields' : Keyed Value}
    (h : (taggedPart kind fields).field "kind" = .text kind ∧
      (taggedPart kind' fields').field "kind" = .text kind' ∧ kind ≠ kind') :
    ¬SameForm (taggedPart kind fields) (taggedPart kind' fields') := by
  obtain ⟨hkind, hkind', hne⟩ := h
  intro hform
  have hfield := sameForm_field hform "kind"
  rw [hkind, hkind'] at hfield
  exact hne (sameForm_text.mp hfield)

/-- **Parts of one kind** have one form if their fields have. -/
theorem sameForm_taggedPart (kind : String) {fields fields' : Keyed Value}
    (h : List.Forall₂ (fun f g => f.1 = g.1 ∧ SameForm f.2 g.2) fields fields') :
    SameForm (taggedPart kind fields) (taggedPart kind fields') := by
  have hfields : fields.map (fun f => (f.1, f.2.canonical)) =
      fields'.map fun f => (f.1, f.2.canonical) :=
    map_eq_map_iff_forall₂.mpr (h.imp fun f g hfg => Prod.ext hfg.1 hfg.2)
  rw [SameForm, taggedPart, taggedPart, Value.canonical, Value.canonical,
    Value.canonicalFields_eq_map, Value.canonicalFields_eq_map, List.map_append, List.map_append,
    hfields]

/-- The name of a data type tells the type. -/
theorem DataType.name_inj {type type' : DataType} : type.name = type'.name ↔ type = type' := by
  refine ⟨fun h => ?_, congrArg name⟩
  have hname := ofName?_name type
  rw [h, ofName?_name] at hname
  exact (Option.some.inj hname).symm

theorem Operator.name_inj {op op' : Operator} : op.name = op'.name ↔ op = op' := by
  refine ⟨fun h => ?_, congrArg name⟩
  have hname := ofName?_name op
  rw [h, ofName?_name] at hname
  exact (Option.some.inj hname).symm

theorem Combinator.name_injective : Function.Injective Combinator.name := by
  intro c c' h
  have hname := ofName?_name c
  rw [h, ofName?_name] at hname
  exact (Option.some.inj hname).symm

/-! ### Sources -/

mutual

/-- **The form of a source** tells the source. -/
theorem Source.sameForm_iff : ∀ source source' : Source,
    SameForm source.document source'.document ↔ source.Alike SameForm source'
  | .literal v type, .literal w type' => by
    constructor
    · intro h
      have htype := sameForm_text.mp (sameForm_field h "data_type")
      exact ⟨sameForm_field h "literal", DataType.name_inj.mp htype⟩
    · rintro ⟨hvalue, rfl⟩
      exact sameForm_taggedPart _ (.cons ⟨rfl, hvalue⟩ (.cons ⟨rfl, rfl⟩ .nil))
  | .input name, .input name' | .variable name, .variable name' => by
    constructor
    · exact fun h => sameForm_text.mp (sameForm_field h "name")
    · rintro rfl
      rfl
  | .array items, .array items' => by
    constructor
    · intro h
      exact (Source.sameForm_documents_iff items items').mp (sameForm_field h "items")
    · intro h
      have hitems := (Source.sameForm_documents_iff items items').mpr h
      exact sameForm_taggedPart _ (.cons ⟨rfl, hitems⟩ .nil)
  | .literal .., .input .. | .literal .., .variable .. | .literal .., .array ..
  | .input .., .literal .. | .input .., .variable .. | .input .., .array ..
  | .variable .., .literal .. | .variable .., .input .. | .variable .., .array ..
  | .array .., .literal .. | .array .., .input .. | .array .., .variable .. =>
    iff_of_false (not_sameForm_of_kind ⟨rfl, rfl, by decide⟩) (fun h => nomatch h)

/-- The form of a list of sources tells the sources. -/
theorem Source.sameForm_documents_iff : ∀ items items' : List Source,
    SameForm (.list (Source.documents items)) (.list (Source.documents items')) ↔
      Source.AlikeAll SameForm items items'
  | [], [] => iff_of_true rfl trivial
  | [], _ :: _ | _ :: _, [] => iff_of_false (fun h => nomatch Value.list.inj h) (fun h => nomatch h)
  | source :: rest, source' :: rest' => by
    have hsource := Source.sameForm_iff source source'
    have hrest := Source.sameForm_documents_iff rest rest'
    rw [SameForm, Value.canonical, Value.canonical, Value.list.injEq] at hrest ⊢
    rw [Source.documents, Source.documents, Value.canonicalItems, Value.canonicalItems,
      List.cons.injEq, hrest, Source.AlikeAll, ← hsource, SameForm]

end

/-! ### Parts of steps -/

theorem Argument.sameForm_iff {a a' : Argument} :
    SameForm a.document a'.document ↔ a.Alike SameForm a' := by
  constructor
  · intro h
    exact ⟨(Source.sameForm_iff _ _).mp (sameForm_field h "source"),
      sameForm_ofText?.mp (sameForm_field h "param_name")⟩
  · rintro ⟨hsource, hparameter⟩
    exact sameForm_taggedPart _ (.cons ⟨rfl, (Source.sameForm_iff _ _).mpr hsource⟩
      (.cons ⟨rfl, sameForm_ofText?.mpr hparameter⟩ .nil))

theorem Condition.sameForm_iff {c c' : Condition} :
    SameForm c.document c'.document ↔ c.Alike SameForm c' := by
  constructor
  · intro h
    have hcombinator := sameForm_ofText?.mp (sameForm_field h "combinator")
    exact ⟨(Source.sameForm_iff _ _).mp (sameForm_field h "lhs"),
      Operator.name_inj.mp (sameForm_text.mp (sameForm_field h "operator")),
      (Source.sameForm_iff _ _).mp (sameForm_field h "rhs"),
      Option.map_injective Combinator.name_injective hcombinator⟩
  · rintro ⟨hlhs, hoperator, hrhs, hcombinator⟩
    refine sameForm_taggedPart _ (.cons ⟨rfl, (Source.sameForm_iff _ _).mpr hlhs⟩
      (.cons ⟨rfl, sameForm_text.mpr (congrArg _ hoperator)⟩
        (.cons ⟨rfl, (Source.sameForm_iff _ _).mpr hrhs⟩ (.cons ⟨rfl, ?_⟩ .nil))))
    exact sameForm_ofText?.mpr (congrArg _ hcombinator)

theorem Report.sameForm_iff {report report' : Report} :
    SameForm report.document report'.document ↔ report.Alike SameForm report' := by
  cases report with
  | success value =>
    cases report' with
    | success value' =>
      constructor
      · exact fun h => (Source.sameForm_iff _ _).mp (sameForm_field h "value")
      · exact fun h => sameForm_taggedPart _
          (.cons ⟨rfl, (Source.sameForm_iff _ _).mpr h⟩ .nil)
    | failure code' message' =>
      exact iff_of_false (not_sameForm_of_kind ⟨rfl, rfl, by decide⟩) (fun h => nomatch h)
  | failure code message =>
    cases report' with
    | success value' =>
      exact iff_of_false (not_sameForm_of_kind ⟨rfl, rfl, by decide⟩) (fun h => nomatch h)
    | failure code' message' =>
      constructor
      · exact fun h => ⟨sameForm_int.mp (sameForm_field h "code"),
          (Source.sameForm_iff _ _).mp (sameForm_field h "message")⟩
      · rintro ⟨rfl, hmessage⟩
        exact sameForm_taggedPart _
          (.cons ⟨rfl, rfl⟩ (.cons ⟨rfl, (Source.sameForm_iff _ _).mpr hmessage⟩ .nil))

/-! ### Steps, inputs and rules -/

/-- **The form of a step** tells the step. -/
theorem Step.sameForm_iff {s s' : Step} :
    SameForm s.document s'.document ↔ s.Alike SameForm s' := by
  obtain ⟨id, action⟩ := s
  obtain ⟨id', action'⟩ := s'
  -- Actions of two constructors are told apart by the kind that their forms carry.
  cases action with
  | call result function arguments next =>
    cases action' with
    | call result' function' arguments' next' =>
      have harguments := @sameForm_list_map _ Argument.document _ arguments arguments'
        fun _ _ => Argument.sameForm_iff
      constructor
      · intro h
        exact ⟨sameForm_text.mp (sameForm_field h "id"),
          sameForm_text.mp (sameForm_field h "output_variable"),
          sameForm_text.mp (sameForm_field h "function_name"),
          harguments.mp (sameForm_field h "args"),
          sameForm_ofText?.mp (sameForm_field h "next")⟩
      · rintro ⟨rfl, rfl, rfl, halike, rfl⟩
        exact sameForm_taggedPart _ (.cons ⟨rfl, rfl⟩ (.cons ⟨rfl, rfl⟩ (.cons ⟨rfl, rfl⟩
          (.cons ⟨rfl, harguments.mpr halike⟩ (.cons ⟨rfl, rfl⟩ .nil)))))
    | branch | output =>
      exact iff_of_false (not_sameForm_of_kind ⟨rfl, rfl, by decide⟩) (fun h => nomatch h.action)
  | branch conditions onTrue onFalse =>
    cases action' with
    | branch conditions' onTrue' onFalse' =>
      have hconditions := @sameForm_list_map _ Condition.document _ conditions conditions'
        fun _ _ => Condition.sameForm_iff
      constructor
      · intro h
        exact ⟨sameForm_text.mp (sameForm_field h "id"),
          hconditions.mp (sameForm_field h "conditions"),
          sameForm_ofText?.mp (sameForm_field h "on_true"),
          sameForm_ofText?.mp (sameForm_field h "on_false")⟩
      · rintro ⟨rfl, halike, rfl, rfl⟩
        exact sameForm_taggedPart _ (.cons ⟨rfl, rfl⟩ (.cons ⟨rfl, hconditions.mpr halike⟩
          (.cons ⟨rfl, rfl⟩ (.cons ⟨rfl, rfl⟩ .nil))))
    | call | output =>
      exact iff_of_false (not_sameForm_of_kind ⟨rfl, rfl, by decide⟩) (fun h => nomatch h.action)
  | output report =>
    cases action' with
    | output report' =>
      constructor
      · exact fun h => ⟨sameForm_text.mp (sameForm_field h "id"),
          Report.sameForm_iff.mp (sameForm_field h "outcome")⟩
      · rintro ⟨rfl, hreport⟩
        exact sameForm_taggedPart _ (.cons ⟨rfl, rfl⟩
          (.cons ⟨rfl, Report.sameForm_iff.mpr hreport⟩ .nil))
    | call | branch =>
      exact iff_of_false (not_sameForm_of_kind ⟨rfl, rfl, by decide⟩) (fun h => nomatch h.action)

theorem InputDecl.sameForm_iff {d d' : InputDecl} :
    SameForm d.document d'.document ↔ d.Alike SameForm d' := by
  constructor
  · intro h
    exact ⟨sameForm_text.mp (sameForm_field h "name"),
      DataType.name_inj.mp (sameForm_text.mp (sameForm_field h "data_type")),
      sameForm_bool.mp (sameForm_field h "mandatory"), sameForm_field h "default"⟩
  · rintro ⟨hname, htype, hmandatory, hdefault⟩
    exact sameForm_taggedPart _ (.cons ⟨rfl, sameForm_text.mpr hname⟩
      (.cons ⟨rfl, sameForm_text.mpr (congrArg _ htype)⟩
        (.cons ⟨rfl, sameForm_bool.mpr hmandatory⟩ (.cons ⟨rfl, hdefault⟩ .nil))))

/-- **The form of a rule** tells the rule, but for what the forms of its literals and defaults
forget. -/
theorem Rule.sameForm_iff {r r' : Rule} :
    SameForm r.document r'.document ↔ r.Alike SameForm r' := by
  have hinputs := @sameForm_list_map _ InputDecl.document _ r.inputs r'.inputs
    fun _ _ => InputDecl.sameForm_iff
  have hsteps := @sameForm_list_map _ Step.document _ r.steps r'.steps
    fun _ _ => Step.sameForm_iff
  constructor
  · intro h
    exact ⟨sameForm_text.mp (sameForm_field h "rule_id"),
      sameForm_text.mp (sameForm_field h "name"),
      hinputs.mp (sameForm_field h "input_params"), hsteps.mp (sameForm_field h "steps"),
      sameForm_ofText?.mp (sameForm_field h "entry")⟩
  · rintro ⟨hid, hname, halike, halike', hentry⟩
    exact sameForm_taggedPart _ (.cons ⟨rfl, sameForm_text.mpr hid⟩
      (.cons ⟨rfl, sameForm_text.mpr hname⟩ (.cons ⟨rfl, hinputs.mpr halike⟩
        (.cons ⟨rfl, hsteps.mpr halike'⟩ (.cons ⟨rfl, sameForm_ofText?.mpr hentry⟩ .nil)))))

/-! ### Literals and defaults -/

mutual

/-- **The literals inside a source**, in order. -/
def Source.literals : Source → List Value
  | .literal v _ => [v]
  | .array items => Source.literalsOfAll items
  | _ => []

/-- The literals inside a list of sources, in order. -/
def Source.literalsOfAll : List Source → List Value
  | [] => []
  | source :: rest => source.literals ++ Source.literalsOfAll rest

end

/-- The literals that a step reads. -/
def Step.literals (s : Step) : List Value :=
  s.sources.flatMap Source.literals

/-- **The literals and defaults of a rule.** -/
def Rule.literals (r : Rule) : List Value :=
  r.inputs.map (·.default) ++ r.steps.flatMap Step.literals

mutual

theorem Source.alike_imp : ∀ source source' : Source,
    (∀ v ∈ source.literals, ∀ w ∈ source'.literals, same v w → same' v w) →
      source.Alike same source' → source.Alike same' source'
  | .literal v _, .literal w _, himp, h =>
    ⟨himp v List.mem_cons_self w List.mem_cons_self h.1, h.2⟩
  | .input _, .input _, _, h | .variable _, .variable _, _, h => h
  | .array items, .array items', himp, h => Source.alikeAll_imp items items' himp h

theorem Source.alikeAll_imp : ∀ items items' : List Source,
    (∀ v ∈ Source.literalsOfAll items, ∀ w ∈ Source.literalsOfAll items',
      same v w → same' v w) →
      Source.AlikeAll same items items' → Source.AlikeAll same' items items'
  | [], [], _, _ => trivial
  | source :: rest, source' :: rest', himp, h => by
    refine ⟨source.alike_imp source' (fun v hv w hw => ?_) h.1,
      Source.alikeAll_imp rest rest' (fun v hv w hw => ?_) h.2⟩
    · exact himp v (List.mem_append_left _ hv) w (List.mem_append_left _ hw)
    · exact himp v (List.mem_append_right _ hv) w (List.mem_append_right _ hw)

end

theorem Step.Alike.imp {s s' : Step} (h : s.Alike same s')
    (himp : ∀ v ∈ s.literals, ∀ w ∈ s'.literals, same v w → same' v w) : s.Alike same' s' := by
  have hsource : ∀ source ∈ s.sources, ∀ source' ∈ s'.sources,
      source.Alike same source' → source.Alike same' source' := by
    intro source hsource source' hsource'
    refine Source.alike_imp source source' fun v hv w hw => ?_
    exact himp v (List.mem_flatMap_of_mem hsource hv) w (List.mem_flatMap_of_mem hsource' hw)
  obtain ⟨id, action⟩ := s
  obtain ⟨id', action'⟩ := s'
  obtain ⟨hid, haction⟩ := h
  refine ⟨hid, ?_⟩
  cases action with
  | call result function arguments next =>
    cases action' with
    | call result' function' arguments' next' =>
      obtain ⟨hresult, hfunction, harguments, hnext⟩ := haction
      refine ⟨hresult, hfunction, ?_, hnext⟩
      refine forall₂_imp_mem harguments fun a ha a' ha' halike => ⟨?_, halike.parameter⟩
      exact hsource _ (List.mem_map_of_mem ha) _ (List.mem_map_of_mem ha') halike.source
    | branch | output => exact haction.elim
  | branch conditions onTrue onFalse =>
    cases action' with
    | branch conditions' onTrue' onFalse' =>
      obtain ⟨hconditions, htargets⟩ := haction
      refine ⟨forall₂_imp_mem hconditions fun c hc c' hc' halike => ?_, htargets⟩
      have hside : ∀ {side side'}, side ∈ [c.lhs, c.rhs] → side' ∈ [c'.lhs, c'.rhs] →
          side.Alike same side' → side.Alike same' side' := fun hside hside' =>
        hsource _ (List.mem_flatMap_of_mem hc hside) _ (List.mem_flatMap_of_mem hc' hside')
      exact ⟨hside (by simp) (by simp) halike.lhs, halike.operator,
        hside (by simp) (by simp) halike.rhs, halike.combinator⟩
    | call | output => exact haction.elim
  | output report =>
    cases action' with
    | output report' =>
      cases report with
      | success value =>
        cases report' with
        | success value' => exact hsource _ List.mem_cons_self _ List.mem_cons_self haction
        | failure => exact haction.elim
      | failure code message =>
        cases report' with
        | success => exact haction.elim
        | failure code' message' =>
          exact ⟨haction.1, hsource _ List.mem_cons_self _ List.mem_cons_self haction.2⟩
    | call | branch => exact haction.elim

/-- **From one relation of literals to another.** -/
theorem Rule.Alike.imp {r r' : Rule} (h : r.Alike same r')
    (himp : ∀ v ∈ r.literals, ∀ w ∈ r'.literals, same v w → same' v w) : r.Alike same' r' := by
  refine ⟨h.id, h.name, ?_, ?_, h.entry⟩
  · refine forall₂_imp_mem h.inputs fun d hd d' hd' halike => ?_
    refine ⟨halike.name, halike.type, halike.mandatory, himp _ ?_ _ ?_ halike.default⟩
    · exact List.mem_append_left _ (List.mem_map_of_mem hd)
    · exact List.mem_append_left _ (List.mem_map_of_mem hd')
  · refine forall₂_imp_mem h.steps fun s hs s' hs' halike => ?_
    refine halike.imp fun v hv w hw => himp v ?_ w ?_
    · exact List.mem_append_right _ (List.mem_flatMap_of_mem hs hv)
    · exact List.mem_append_right _ (List.mem_flatMap_of_mem hs' hw)

end RuleFlow
