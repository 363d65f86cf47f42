import RuleFlow.Proofs.Json.Readable
import RuleFlow.Proofs.Rule.Literals

/-!
# The canonical text tells the rule

A rule is identified by the digest of its canonical text. This file shows that the text itself tells
rules apart: rules that were read from documents and have one canonical text are equal part by part,
but for the order of keys inside their literals and defaults.

## Three steps

* The text tells the canonical form of the rule as a value, by unique readability
  (`RuleFlow.Json.eq_of_write`).
* That form tells the rule, but for what the canonical forms of its literals and defaults forget
  (`RuleFlow.Rule.sameForm_iff`).
* The literals and defaults of a rule are parts of the document that it was read from
  (`RuleFlow.Rule.literals_read`). Of such values the canonical form forgets nothing but the order
  of keys (`RuleFlow.Value.IsJson.canonical_eq_iff`).

`RuleFlow.Rule.alike_iff_canonicalText_eq` is the result. It supposes that different doubles among
the literals and defaults have different texts.
-/

namespace RuleFlow

open Json (Writable)

open Number (Binary64)

variable {known : Binary64 → Prop}

/-! ### The doubles of a value -/

namespace Value

mutual

/-- **The doubles inside a value**, in order. -/
def doubles : Value → List Binary64
  | .float x => [x]
  | .list items => doublesOfItems items
  | .record fields => doublesOfFields fields
  | _ => []

/-- The doubles inside the items of a list. -/
def doublesOfItems : List Value → List Binary64
  | [] => []
  | v :: rest => v.doubles ++ doublesOfItems rest

/-- The doubles inside the fields of a record. -/
def doublesOfFields : List (String × Value) → List Binary64
  | [] => []
  | (_, v) :: rest => v.doubles ++ doublesOfFields rest

end

mutual

/-- **The canonical form can be written**, with the doubles of the value. -/
theorem writable_canonical : ∀ v : Value, (∀ x ∈ v.doubles, known x) → Writable known v.canonical
  | .null, _ => .null
  | .bool b, _ => .bool b
  | .int n, _ => .int n
  | .float x, h => .float (h x List.mem_cons_self)
  | .text s, _ => .text s
  | .decimal d, _ => .record (List.forall_mem_singleton.mpr (.text d.toText))
  | .temporal t, _ => .record (List.forall_mem_singleton.mpr (.text t.isoText))
  | .list items, h => by
    rw [canonical]
    exact .list (writable_canonicalItems items h)
  | .record fields, h => by
    rw [canonical]
    refine .record fun f hf => writable_canonicalFields fields h f ?_
    exact (List.mergeSort_perm _ _).mem_iff.mp hf

theorem writable_canonicalItems : ∀ items : List Value, (∀ x ∈ doublesOfItems items, known x) →
    ∀ v ∈ canonicalItems items, Writable known v
  | [], _, _, hv => absurd hv List.not_mem_nil
  | first :: rest, h, v, hv => by
    rcases List.mem_cons.mp hv with rfl | hv
    · exact writable_canonical first fun x hx => h x (List.mem_append_left _ hx)
    · exact writable_canonicalItems rest (fun x hx => h x (List.mem_append_right _ hx)) v hv

theorem writable_canonicalFields : ∀ fields : List (String × Value),
    (∀ x ∈ doublesOfFields fields, known x) → ∀ f ∈ canonicalFields fields, Writable known f.2
  | [], _, _, hf => absurd hf List.not_mem_nil
  | (_, first) :: rest, h, f, hf => by
    rcases List.mem_cons.mp hf with rfl | hf
    · exact writable_canonical first fun x hx => h x (List.mem_append_left _ hx)
    · exact writable_canonicalFields rest (fun x hx => h x (List.mem_append_right _ hx)) f hf

end

theorem writable_ofText? (s : Option String) : Writable known (canonical (.ofText? s)) := by
  cases s with
  | none => exact .null
  | some s => exact .text s

theorem writable_list_map {α : Type} {f : α → Value} {xs : List α}
    (h : ∀ x ∈ xs, Writable known (f x).canonical) :
    Writable known (canonical (.list (xs.map f))) := by
  rw [canonical, canonicalItems_eq_map]
  refine .list fun v hv => ?_
  simp only [List.map_map, List.mem_map, Function.comp_apply] at hv
  obtain ⟨x, hx, rfl⟩ := hv
  exact h x hx

end Value

open Value (IsJson writable_ofText? writable_list_map)

/-! ### The written form of a rule -/

theorem writable_taggedPart {kind : String} {fields : Keyed Value}
    (h : fields.Forall fun f => Writable known f.2.canonical) :
    Writable known (taggedPart kind fields).canonical := by
  rw [taggedPart, Value.canonical]
  refine .record fun f hf => ?_
  rw [(List.mergeSort_perm _ _).mem_iff, Value.canonicalFields_eq_map] at hf
  obtain ⟨g, hg, rfl⟩ := List.mem_map.mp hf
  rcases List.mem_append.mp hg with hg | hg
  · exact List.forall_iff_forall_mem.mp h g hg
  · obtain rfl := List.mem_singleton.mp hg
    exact .text kind

mutual

/-- **A source can be written** if its literals can. -/
theorem Source.writable_document : ∀ source : Source,
    (∀ v ∈ source.literals, Writable known v.canonical) → Writable known source.document.canonical
  | .literal v type, h => writable_taggedPart ⟨h v List.mem_cons_self, .text type.name⟩
  | .input name, _ | .variable name, _ => writable_taggedPart (.text name)
  | .array items, h => by
    refine writable_taggedPart ?_
    change Writable known (Value.list (Source.documents items)).canonical
    rw [Value.canonical]
    exact .list (Source.writable_documents items h)

theorem Source.writable_documents : ∀ items : List Source,
    (∀ v ∈ Source.literalsOfAll items, Writable known v.canonical) →
      ∀ v ∈ Value.canonicalItems (Source.documents items), Writable known v
  | [], _, _, hv => absurd hv List.not_mem_nil
  | source :: rest, h, v, hv => by
    rcases List.mem_cons.mp hv with rfl | hv
    · exact source.writable_document fun w hw => h w (List.mem_append_left _ hw)
    · exact Source.writable_documents rest (fun w hw => h w (List.mem_append_right _ hw)) v hv

end

theorem Step.writable_document {s : Step} (h : ∀ v ∈ s.literals, Writable known v.canonical) :
    Writable known s.document.canonical := by
  have hsource : ∀ source ∈ s.sources, Writable known source.document.canonical := fun source hs =>
    source.writable_document fun v hv => h v (List.mem_flatMap_of_mem hs hv)
  obtain ⟨id, action⟩ := s
  cases action with
  | call result function arguments next =>
    refine writable_taggedPart ⟨.text id, .text result, .text function,
      writable_list_map fun a ha => ?_, writable_ofText? next⟩
    have ha' := hsource _ (List.mem_map_of_mem ha)
    exact writable_taggedPart ⟨ha', writable_ofText? a.parameter⟩
  | branch conditions onTrue onFalse =>
    refine writable_taggedPart ⟨.text id, writable_list_map fun c hc => ?_,
      writable_ofText? onTrue, writable_ofText? onFalse⟩
    have hside : ∀ side ∈ [c.lhs, c.rhs], Writable known side.document.canonical := fun side hs =>
      hsource side (List.mem_flatMap_of_mem hc hs)
    exact writable_taggedPart ⟨hside _ (by simp), .text c.operator.name, hside _ (by simp),
      writable_ofText? _⟩
  | output report =>
    refine writable_taggedPart ⟨.text id, ?_⟩
    cases report with
    | success value => exact writable_taggedPart (hsource _ List.mem_cons_self)
    | failure code message =>
      exact writable_taggedPart ⟨.int code, hsource _ List.mem_cons_self⟩

/-- **A rule can be written** if its literals and defaults can. -/
theorem Rule.writable_document {r : Rule} (h : ∀ v ∈ r.literals, Writable known v.canonical) :
    Writable known r.document.canonical := by
  refine writable_taggedPart ⟨.text r.id, .text r.name, writable_list_map fun d hd => ?_,
    writable_list_map fun s hs => ?_, writable_ofText? r.entry⟩
  · have hdefault := h d.default (List.mem_append_left _ (List.mem_map_of_mem hd))
    exact writable_taggedPart ⟨.text d.name, .text d.type.name, .bool d.mandatory, hdefault⟩
  · exact Step.writable_document fun v hv =>
      h v (List.mem_append_right _ (List.mem_flatMap_of_mem hs hv))

/-- **The doubles of a rule**: those in its literals and defaults. -/
def Rule.doubles (r : Rule) : List Binary64 :=
  r.literals.flatMap Value.doubles

/-- **The canonical text tells the rule**, but for what the canonical forms of its literals and
defaults forget. -/
theorem Rule.sameForm_iff_canonicalText_eq {r r' : Rule}
    (hdoubles : ∀ x ∈ r.doubles, ∀ y ∈ r'.doubles,
      Json.writeDouble x = Json.writeDouble y → x = y) :
    r.Alike Value.SameForm r' ↔ r.canonicalText = r'.canonicalText := by
  rw [← Rule.sameForm_iff]
  constructor
  · exact congrArg (Json.write Json.compact)
  · have hwritable : ∀ r : Rule, Writable (· ∈ r.doubles) r.document.canonical := fun r =>
      Rule.writable_document fun v hv => v.writable_canonical fun x hx =>
        List.mem_flatMap_of_mem hv hx
    exact Json.eq_of_write (fun x y hx hy => hdoubles x hx y hy) (hwritable r) (hwritable r')

/-! ### Rules that were read -/

/-- **The canonical text tells rules apart.** Two rules that were read from documents have one
canonical text exactly if they are equal part by part, but for the order of keys inside their
literals and defaults, where different doubles among these have different texts. -/
theorem Rule.alike_iff_canonicalText_eq {p p' : Value} {most most' : Option Int} {r r' : Rule}
    (hp : p.IsJson) (hp' : p'.IsJson) (hr : Rule.read p most = .ok r)
    (hr' : Rule.read p' most' = .ok r')
    (hdoubles : ∀ x ∈ r.doubles, ∀ y ∈ r'.doubles,
      Json.writeDouble x = Json.writeDouble y → x = y) :
    r.canonicalText = r'.canonicalText ↔ r.Alike Value.Reordered r' := by
  have hliterals := Rule.literals_read hr hp
  have hliterals' := Rule.literals_read hr' hp'
  rw [← Rule.sameForm_iff_canonicalText_eq hdoubles]
  constructor
  · intro h
    exact h.imp fun v hv w hw hform =>
      ((hliterals v hv).canonical_eq_iff (hliterals' w hw)).mp hform
  · intro h
    exact h.imp fun v hv w hw hreordered =>
      ((hliterals v hv).canonical_eq_iff (hliterals' w hw)).mpr hreordered

/-! ### Rules that report a literal -/

/-- A document whose only step reports a literal. -/
def literalDocument (literal : Value) : Value :=
  .record [("id", .text "r"), ("steps", .list [.record [("id", .text "s"),
    ("type", .text "output"),
    ("data", .record [("type", .text "static"), ("value", literal)])]])]

/-- A rule whose only step reports a literal. -/
def literalRule (literal : Value) : Rule :=
  { id := "r", name := "r", steps := [⟨"s", .output (.success (.literal literal .any))⟩] }

theorem read_literalStep (literal : Value) (path : String) :
    Step.read (.record [("id", .text "s"), ("type", .text "output"),
      ("data", .record [("type", .text "static"), ("value", literal)])]) path =
      .ok ⟨"s", .output (.success (.literal literal .any))⟩ := by
  have hsource : Source.read (Step.outputData (.record [("type", .text "static"),
      ("value", literal)])) s!"{path}.data" = .ok (.literal literal .any) := by
    change Source.read (.record _) _ = _
    rw [Source.read]
    rfl
  have houtput : Step.readOutput (.record [("id", .text "s"), ("type", .text "output"),
      ("data", .record [("type", .text "static"), ("value", literal)])]) "s" path =
      .ok (.output (.success (.literal literal .any))) := by
    rw [Step.readOutput]
    change (if Text.lower "success" = "success" then _ else _) = _
    rw [if_pos Step.lower_success, hsource]
    rfl
  rw [Step.read]
  change (Step.readOutput _ "s" path >>= _) = _
  rw [houtput]
  rfl

theorem read_literalDocument (literal : Value) :
    Rule.read (literalDocument literal) = .ok (literalRule literal) := by
  have hnamed : Rule.Named (literalDocument literal) := Rule.named_of_text rfl rfl
  rw [Rule.read_of_opens ⟨hnamed, rfl, rfl, by simp⟩, Rule.readSteps]
  change ((Step.read _ _ >>= _) >>= _) = _
  rw [read_literalStep]
  rfl

theorem isJson_literalDocument {literal : Value} (h : literal.IsJson) :
    (literalDocument literal).IsJson := by
  have hdata : IsJson (.record [("type", .text "static"), ("value", literal)]) :=
    .recordOf ([("type", _), ("value", _)]) (by simp [h, IsJson.text])
  have hstep : IsJson (.record [("id", .text "s"), ("type", .text "output"),
      ("data", .record [("type", .text "static"), ("value", literal)])]) :=
    .recordOf ([("id", _), ("type", _), ("data", _)]) (by simp [hdata, IsJson.text])
  have hsteps := IsJson.list (List.forall_mem_singleton.mpr hstep)
  exact .recordOf ([("id", _), ("steps", _)]) (by simp [hsteps, IsJson.text])

/-- A record of two fields in the order of their keys. -/
def pair : Value :=
  .record [("a", .float (.zero false)), ("b", .text "a")]

/-- The same record in the other order. -/
def pairReversed : Value :=
  .record [("b", .text "a"), ("a", .float (.zero false))]

theorem pair_alike_iff_canonicalText_eq :
    (literalRule pair).canonicalText = (literalRule pairReversed).canonicalText ↔
      (literalRule pair).Alike Value.Reordered (literalRule pairReversed) := by
  refine Rule.alike_iff_canonicalText_eq (isJson_literalDocument ?_) (isJson_literalDocument ?_)
    (read_literalDocument pair) (read_literalDocument pairReversed) ?_
  · exact .record (by decide) (by simp [Value.IsJson.text, Value.IsJson.float])
  · exact .record (by decide) (by simp [Value.IsJson.text, Value.IsJson.float])
  · decide

end RuleFlow
