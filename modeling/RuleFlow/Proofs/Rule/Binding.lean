import RuleFlow.Proofs.Alike
import RuleFlow.Proofs.Rule.ConditionTypes
import RuleFlow.Proofs.Run.Accepted

/-!
# How arguments reach parameters

A call gives its arguments by name or by position, mixed in any order. Binding takes the named ones
first and fills the rest in order into what they have left free. This file says which argument
reaches which parameter without following the two passes.

## Who is given what

A named argument goes to the parameter of its name. The others are counted, and so are the
parameters that no argument names: the one of a number goes to the other of that number
(`RuleFlow.Entry.Given`). Nothing in this depends on where the named arguments stand among the
others.

* `RuleFlow.Entry.Admits` says which arguments a function takes, `RuleFlow.Entry.Receives` what each
  of its parameters holds then.
* `RuleFlow.BoundCall.ends_placeNamed` and `RuleFlow.BoundCall.placeInOrder_map` are the two passes:
  each leaves the slots a function of the parameters (`RuleFlow.BoundCall.slot`).
* `RuleFlow.BoundCall.slot_eq_some_iff` ties the slots to what is given, and
  `RuleFlow.BoundCall.bind_admits` is the result.
-/

namespace RuleFlow

open BoundCall (positional)

/-- The names that arguments are given to, in order. -/
def Argument.names (arguments : List Argument) : List String :=
  arguments.filterMap (·.parameter)

namespace Entry

/-! ### What arguments say -/

/-- **The parameters that no argument names**, in order. -/
def unnamed (f : Entry) (arguments : List Argument) : List Parameter :=
  f.parameters.filter fun p => p.name ∉ Argument.names arguments

/-- **A source is given to a parameter.** -/
inductive Given (f : Entry) (arguments : List Argument) : Parameter → Source → Prop
  /-- An argument of its name goes to a parameter. -/
  | named {a : Argument} {p : Parameter} : a ∈ arguments → p ∈ f.parameters →
      a.parameter = some p.name → Given f arguments p a.source
  /-- An argument without a name goes to the parameter of its number among those not named. -/
  | inOrder {k : Nat} {p : Parameter} {source : Source} : (f.unnamed arguments)[k]? = some p →
      (positional arguments)[k]? = some source → Given f arguments p source

/-- Sources are given to parameters of the function. -/
theorem Given.mem {f : Entry} {arguments : List Argument} {p : Parameter} {source : Source}
    (h : f.Given arguments p source) : p ∈ f.parameters := by
  cases h with
  | named _ hp _ => exact hp
  | inOrder hk _ => exact List.mem_of_mem_filter (List.mem_of_getElem? hk)

/-- **What a parameter holds**: the source that it is given, or else its default. -/
structure Receives (f : Entry) (arguments : List Argument) (p : Parameter) (source : Source) :
    Prop where
  /-- What is given is held. -/
  given : ∀ s, f.Given arguments p s → source = s
  /-- The default is held where nothing is given. -/
  default : (∀ s, ¬f.Given arguments p s) →
    ∃ v, p.defaultValue = .ok v ∧ source = .literal v p.type

/-- **Names that may be given arguments**: each is that of a parameter, and comes once. -/
structure Names (f : Entry) (names : List String) : Prop where
  /-- Every name is that of a parameter. -/
  known : ∀ name ∈ names, ∃ p ∈ f.parameters, p.name = name
  /-- No name comes twice. -/
  once : names.Nodup

/-- **The arguments that a function takes.** -/
structure Admits (f : Entry) (types : Types) (arguments : List Argument) : Prop where
  /-- The names are those of different parameters. -/
  names : f.Names (Argument.names arguments)
  /-- There are parameters enough for the arguments without a name. -/
  room : (positional arguments).length ≤ (f.unnamed arguments).length
  /-- What a parameter is given goes with its type. -/
  types : ∀ p source, f.Given arguments p source → p.type.GoesWith (source.type types)

end Entry

namespace BoundCall

variable {f : Entry} {stepId name : String} {types : Types} {arguments before after : List Argument}
  {p : Parameter} {source : Source}

/-! ### Named arguments -/

/-- The source that an argument gives to a name. -/
def named (arguments : List Argument) (name : String) : Option Source :=
  (arguments.find? fun a => a.parameter == some name).map (·.source)

theorem mem_names : name ∈ Argument.names arguments ↔ ∃ a ∈ arguments, a.parameter = some name :=
  List.mem_filterMap

theorem named_eq_none_iff : named arguments name = none ↔ name ∉ Argument.names arguments := by
  rw [named, Option.map_eq_none_iff, List.find?_eq_none, mem_names]
  simp

theorem names_append_of_none {a : Argument} (h : a.parameter = none) :
    Argument.names (before ++ [a]) = Argument.names before := by
  simp [Argument.names, List.filterMap_append, h]

theorem names_append_of_some {a : Argument} (h : a.parameter = some name) :
    Argument.names (before ++ [a]) = Argument.names before ++ [name] := by
  simp [Argument.names, List.filterMap_append, h]

theorem named_append (a : Argument) (name : String) :
    named (before ++ [a]) name =
      (named before name).or (if a.parameter = some name then some a.source else none) := by
  rw [named, named, List.find?_append, Option.map_or]
  by_cases h : a.parameter = some name <;> simp [h]

/-- **Arguments of different names** each give their own source. -/
theorem named_eq_some_iff (h : (Argument.names arguments).Nodup) :
    named arguments name = some source ↔
      ∃ a ∈ arguments, a.parameter = some name ∧ a.source = source := by
  induction arguments using List.reverseRecOn with
  | nil => simp [named]
  | append_singleton before a ih =>
    rw [named_append]
    cases ha : a.parameter with
    | none =>
      rw [names_append_of_none ha] at h
      simpa [ha] using ih h
    | some other =>
      rw [names_append_of_some ha, List.nodup_append] at h
      obtain ⟨hbefore, -, hapart⟩ := h
      by_cases hname : other = name
      · subst hname
        have hnew : other ∉ Argument.names before := fun hmem =>
          hapart other hmem other (by simp) rfl
        have hnone : ∀ b ∈ before, b.parameter ≠ some other := fun b hb hparameter =>
          hnew (mem_names.mpr ⟨b, hb, hparameter⟩)
        rw [named_eq_none_iff.mpr hnew]
        simp only [↓reduceIte, Option.none_or, Option.some.injEq, List.mem_append,
          List.mem_singleton]
        constructor
        · rintro rfl
          exact ⟨a, .inr rfl, ha, rfl⟩
        · rintro ⟨b, hb | rfl, hparameter, hsource⟩
          · exact absurd hparameter (hnone b hb)
          · exact hsource
      · simpa [ha, hname] using ih hbefore

/-- The place of a parameter is the place of its name. -/
theorem getElem?_of_parameterIndex? {i : Nat} (h : f.parameterIndex? name = some i) :
    ∃ p, f.parameters[i]? = some p ∧ p.name = name := by
  rw [Entry.parameterIndex?, List.findIdx?_eq_some_iff_getElem] at h
  obtain ⟨hi, hname, -⟩ := h
  exact ⟨_, List.getElem?_eq_getElem hi, by simpa using hname⟩

theorem parameterIndex?_eq_none_iff :
    f.parameterIndex? name = none ↔ ¬∃ p ∈ f.parameters, p.name = name := by
  simp [Entry.parameterIndex?, List.findIdx?_eq_none_iff]

/-- **Filling the slot of a name** is what one more argument of that name does to all slots. -/
theorem set_slots (hdistinct : (f.parameters.map (·.name)).Nodup) {a : Argument} {i : Nat}
    (hi : f.parameters[i]? = some p) (ha : a.parameter = some p.name)
    (hnew : named before p.name = none) :
    (f.parameters.map fun p => named before p.name).set i (some a.source) =
      f.parameters.map fun p => named (before ++ [a]) p.name := by
  refine List.ext_getElem? fun j => ?_
  rw [List.getElem?_set, List.length_map, List.getElem?_map, List.getElem?_map]
  have hlt : i < f.parameters.length := (List.getElem?_eq_some_iff.mp hi).1
  by_cases hij : i = j
  · subst hij
    rw [if_pos rfl, if_pos hlt, hi, Option.map_some, named_append, hnew, ha, if_pos rfl]
    rfl
  · rw [if_neg hij]
    cases hj : f.parameters[j]? with
    | none => rfl
    | some q =>
      -- Another place has another name, so the argument is none of its own.
      have hne : p.name ≠ q.name := fun heq =>
        hij ((List.getElem?_inj (by simpa using hlt) hdistinct).mp (by simp [hi, hj, heq]))
      simp [named_append, ha, hne]

/-- **The first pass**: each parameter gets what an argument of its name gives. It goes on as long
as the names are those of parameters and new. -/
theorem ends_placeNamed (hdistinct : (f.parameters.map (·.name)).Nodup)
    (hbefore : f.Names (Argument.names before)) (after : List Argument) :
    Ends (placeNamed f stepId (f.parameters.map fun p => named before p.name) after)
      (fun slots => f.Names (Argument.names (before ++ after)) ∧
        slots = f.parameters.map fun p => named (before ++ after) p.name)
      (fun e => ¬f.Names (Argument.names (before ++ after)) ∧ e.kind = .signatureMismatch) := by
  induction after generalizing before with
  | nil =>
    rw [placeNamed, List.append_nil]
    exact ⟨hbefore, rfl⟩
  | cons a after ih =>
    have hsplit : before ++ a :: after = (before ++ [a]) ++ after := by simp
    rw [placeNamed, hsplit]
    cases ha : a.parameter with
    | none =>
      have hslots : (fun p : Parameter => named before p.name) =
          fun p => named (before ++ [a]) p.name := by
        funext p
        simp [named_append, ha]
      rw [hslots]
      exact ih (by rwa [names_append_of_none ha])
    | some name =>
      have hnames : Argument.names ((before ++ [a]) ++ after) =
          Argument.names before ++ name :: Argument.names after := by
        simp [Argument.names, List.filterMap_append, ha]
      dsimp only
      cases hindex : f.parameterIndex? name with
      | none =>
        refine ⟨fun h => parameterIndex?_eq_none_iff.mp hindex (h.known name ?_), rfl⟩
        rw [hnames]
        simp
      | some i =>
        obtain ⟨p, hp, rfl⟩ := getElem?_of_parameterIndex? hindex
        have hslot : (f.parameters.map fun p => named before p.name).getD i none =
            named before p.name := by
          simp [List.getD, hp]
        dsimp only
        rw [hslot]
        cases hnamed : named before p.name with
        | some source =>
          refine ⟨fun h => ?_, rfl⟩
          have hmem : p.name ∈ Argument.names before := by
            by_contra hno
            exact Option.some_ne_none _ (hnamed.symm.trans (named_eq_none_iff.mpr hno))
          have honce := h.once
          rw [hnames, List.nodup_append] at honce
          exact honce.2.2 p.name hmem p.name List.mem_cons_self rfl
        | none =>
          rw [set_slots hdistinct hp ha hnamed]
          refine ih ⟨?_, ?_⟩
          · rw [names_append_of_some ha]
            exact forall_mem_snoc.mpr ⟨hbefore.known, p, List.mem_of_getElem? hp, rfl⟩
          · rw [names_append_of_some ha, ← List.concat_eq_append, List.nodup_concat]
            exact ⟨named_eq_none_iff.mp hnamed, hbefore.once⟩

/-! ### Arguments without a name -/

/-- **The second pass**: what is left is given to the parameters that have nothing yet, in order.
Where these stand is told by their names. -/
theorem placeInOrder_map (given : Parameter → Option Source) {parameters : List Parameter}
    (hdistinct : (parameters.map (·.name)).Nodup) (sources : List Source) :
    placeInOrder (parameters.map given) sources =
      (parameters.map fun p => (given p).or
        sources[((parameters.filter fun p => (given p).isNone).map (·.name)).idxOf p.name]?,
        sources.drop (parameters.filter fun p => (given p).isNone).length) := by
  induction parameters generalizing sources with
  | nil => cases sources <;> simp [placeInOrder]
  | cons p parameters ih =>
    rw [List.map_cons, List.nodup_cons] at hdistinct
    obtain ⟨hnew, hdistinct⟩ := hdistinct
    have hne : ∀ q ∈ parameters, p.name ≠ q.name := fun q hq heq =>
      hnew (heq ▸ List.mem_map_of_mem hq)
    cases sources with
    | nil => simp [placeInOrder]
    | cons source sources =>
      cases hp : given p with
      | some taken =>
        rw [List.filter_cons_of_neg (by simp [hp]), List.map_cons, List.map_cons, hp]
        simp only [placeInOrder, ih hdistinct]
        rfl
      | none =>
        rw [List.filter_cons_of_pos (by simp [hp]), List.map_cons, List.map_cons, hp,
          placeInOrder, ih hdistinct]
        refine Prod.ext ?_ rfl
        rw [List.map_cons, List.idxOf_cons_self, Option.none_or]
        -- The first free parameter takes the first source, the others count from the next one.
        refine congrArg (some source :: ·) (List.map_congr_left fun q hq => ?_)
        rw [List.idxOf_cons_ne _ (hne q hq)]
        rfl

/-! ### What is given, and what is held -/

/-- **What a parameter has** after both passes. -/
def slot (f : Entry) (arguments : List Argument) (p : Parameter) : Option Source :=
  (named arguments p.name).or
    (positional arguments)[((f.unnamed arguments).map (·.name)).idxOf p.name]?

theorem unnamed_eq_filter (f : Entry) (arguments : List Argument) :
    f.unnamed arguments = f.parameters.filter fun p => (named arguments p.name).isNone := by
  refine List.filter_congr fun p _ => ?_
  rw [Bool.eq_iff_iff, decide_eq_true_iff, Option.isNone_iff_eq_none, named_eq_none_iff]

/-- The parameters that no argument names have different names too. -/
theorem nodup_unnamed (hdistinct : (f.parameters.map (·.name)).Nodup) :
    ((f.unnamed arguments).map (·.name)).Nodup :=
  hdistinct.sublist (List.filter_sublist.map _)

/-- **A parameter has what it is given.** -/
theorem slot_eq_some_iff (hdistinct : (f.parameters.map (·.name)).Nodup)
    (honce : (Argument.names arguments).Nodup) (hp : p ∈ f.parameters) :
    slot f arguments p = some source ↔ f.Given arguments p source := by
  by_cases hname : p.name ∈ Argument.names arguments
  · -- An argument names the parameter, so that it is not among those that are filled in order.
    obtain ⟨s, hs⟩ := Option.ne_none_iff_exists'.mp fun hnone => named_eq_none_iff.mp hnone hname
    rw [slot, hs, Option.some_or, ← hs, named_eq_some_iff honce]
    constructor
    · rintro ⟨a, ha, hparameter, rfl⟩
      exact .named ha hp hparameter
    · intro h
      cases h with
      | named ha _ hparameter => exact ⟨_, ha, hparameter, rfl⟩
      | inOrder hk _ =>
        have hfree := List.of_mem_filter (List.mem_of_getElem? hk)
        exact absurd hname (by simpa using hfree)
  · rw [slot, named_eq_none_iff.mpr hname, Option.none_or]
    have hmem : p ∈ f.unnamed arguments := List.mem_filter.mpr ⟨hp, by simpa using hname⟩
    have hplace : ∀ k, (f.unnamed arguments)[k]? = some p →
        ((f.unnamed arguments).map (·.name)).idxOf p.name = k := by
      intro k hk
      obtain ⟨hlt, hget⟩ := List.getElem?_eq_some_iff.mp hk
      have hidx := (nodup_unnamed hdistinct).idxOf_getElem k (by simpa using hlt)
      simpa [hget] using hidx
    constructor
    · intro h
      obtain ⟨k, hk⟩ := List.getElem?_of_mem hmem
      rw [hplace k hk] at h
      exact .inOrder hk h
    · intro h
      cases h with
      | named ha _ hparameter => exact absurd (mem_names.mpr ⟨_, ha, hparameter⟩) hname
      | inOrder hk hsource =>
        rw [hplace _ hk]
        exact hsource

/-- **What a parameter holds** is determined by the arguments. -/
theorem rightUnique_receives : Relator.RightUnique (f.Receives arguments) := by
  intro p source source' h h'
  by_cases hgiven : ∃ s, f.Given arguments p s
  · obtain ⟨s, hs⟩ := hgiven
    exact (h.given s hs).trans (h'.given s hs).symm
  · obtain ⟨v, hv, rfl⟩ := h.default (not_exists.mp hgiven)
    obtain ⟨v', hv', rfl⟩ := h'.default (not_exists.mp hgiven)
    obtain rfl := Except.ok.inj (hv.symm.trans hv')
    rfl

theorem fits_iff {expected actual : DataType} :
    fits expected actual = true ↔ expected.GoesWith actual := by
  cases expected <;> cases actual <;> simp [fits, DataType.GoesWith]

/-- **Filling one parameter**: it holds what it is given, if that goes with its type. -/
theorem ends_fill (hdistinct : (f.parameters.map (·.name)).Nodup)
    (honce : (Argument.names arguments).Nodup) (hp : p ∈ f.parameters)
    (hdefault : ∃ v, p.defaultValue = .ok v) :
    Ends (fill f stepId types p (slot f arguments p))
      (fun source => f.Receives arguments p source ∧
        ∀ s, f.Given arguments p s → p.type.GoesWith (s.type types))
      (fun e => (∃ s, f.Given arguments p s ∧ ¬p.type.GoesWith (s.type types)) ∧
        e.kind? = some .signatureMismatch) := by
  have hgiven := fun s => @slot_eq_some_iff f arguments p s hdistinct honce hp
  cases hslot : slot f arguments p with
  | none =>
    have hnone : ∀ s, ¬f.Given arguments p s := fun s hs =>
      nomatch hslot.symm.trans ((hgiven s).mpr hs)
    obtain ⟨v, hv⟩ := hdefault
    rw [fill, hv]
    exact ⟨⟨fun s hs => absurd hs (hnone s), fun _ => ⟨v, hv, rfl⟩⟩,
      fun s hs => absurd hs (hnone s)⟩
  | some source =>
    have hsource : f.Given arguments p source := (hgiven source).mp hslot
    have honly : ∀ s, f.Given arguments p s → source = s := fun s hs =>
      Option.some.inj (hslot.symm.trans ((hgiven s).mpr hs))
    rw [fill]
    split_ifs with hfits
    · refine ⟨⟨honly, fun hnone => absurd hsource (hnone source)⟩, fun s hs => ?_⟩
      exact honly s hs ▸ fits_iff.mp hfits
    · exact ⟨⟨source, hsource, fun hgoes => hfits (fits_iff.mpr hgoes)⟩, rfl⟩

/-- **Filling all parameters**, one after the other. -/
theorem ends_fillAll (hdistinct : (f.parameters.map (·.name)).Nodup)
    (honce : (Argument.names arguments).Nodup)
    (hdefaults : ∀ p ∈ f.parameters, ∃ v, p.defaultValue = .ok v) :
    Ends ((f.parameters.zip (f.parameters.map (slot f arguments))).mapM
        fun (p, slot) => fill f stepId types p slot)
      (fun args => List.Forall₂ (f.Receives arguments) f.parameters args ∧
        ∀ p source, f.Given arguments p source → p.type.GoesWith (source.type types))
      (fun e => ¬f.Admits types arguments ∧ e.kind? = some .signatureMismatch) := by
  rw [← List.map_prod_left_eq_zip]
  have hall : Ends ((f.parameters.map fun p => (p, slot f arguments p)).mapM
        fun (p, slot) => fill f stepId types p slot)
      (List.Forall₂ (fun x source => f.Receives arguments x.1 source ∧
        ∀ s, f.Given arguments x.1 s → x.1.type.GoesWith (s.type types))
        (f.parameters.map fun p => (p, slot f arguments p)))
      (fun e => ¬f.Admits types arguments ∧ e.kind? = some .signatureMismatch) := by
    refine ends_mapM_forall₂ fun x hx => ?_
    obtain ⟨p, hp, rfl⟩ := List.mem_map.mp hx
    refine (ends_fill hdistinct honce hp (hdefaults p hp)).mono (fun _ h => h) ?_
    rintro e ⟨⟨s, hs, hgoes⟩, hkind⟩
    exact ⟨fun h => hgoes (h.types p s hs), hkind⟩
  refine hall.mono (fun args hargs => ?_) fun _ he => he
  rw [List.forall₂_map_left_iff] at hargs
  refine ⟨hargs.imp fun _ _ h => h.1, fun p source hgiven => ?_⟩
  obtain ⟨_, -, -, hgoes⟩ := exists_of_forall₂ hargs hgiven.mem
  exact hgoes source hgiven

/-- **What binding comes to**, once the function is found: its parameters hold what they receive, or
it does not take the arguments. -/
theorem ends_bind {registry : Registry} {function : String}
    (hfound : registry.require function = .ok f) (hdistinct : (f.parameters.map (·.name)).Nodup)
    (hdefaults : ∀ p ∈ f.parameters, ∃ v, p.defaultValue = .ok v) :
    Ends (bind registry types stepId function arguments)
      (fun call => f.Admits types arguments ∧ call.stepId = stepId ∧ call.function = f ∧
        List.Forall₂ (f.Receives arguments) f.parameters call.args)
      (fun e => ¬f.Admits types arguments ∧ e.kind? = some .signatureMismatch) := by
  have hstart : f.Names (Argument.names []) := ⟨by simp [Argument.names], by simp [Argument.names]⟩
  have hplaced : Ends ((placeNamed f stepId (f.parameters.map fun _ => none) arguments).mapError
      RuleError.bind)
      (fun slots => f.Names (Argument.names arguments) ∧
        slots = f.parameters.map fun p => named arguments p.name)
      (fun e => ¬f.Admits types arguments ∧ e.kind? = some .signatureMismatch) :=
    (ends_placeNamed hdistinct hstart arguments).mapError fun e he =>
      ⟨fun h => he.1 h.names, congrArg some he.2⟩
  rw [bind, hfound]
  refine Ends.ok_bind (hplaced.bind ?_)
  rintro slots ⟨hnames, rfl⟩
  rw [placeInOrder_map _ hdistinct, ← unnamed_eq_filter]
  dsimp only
  split_ifs with hleft
  · refine ⟨fun h => ?_, rfl⟩
    simp [h.room] at hleft
  · have hroom : (positional arguments).length ≤ (f.unnamed arguments).length := by
      simpa using hleft
    refine (ends_fillAll hdistinct hnames.once hdefaults).bind fun args hargs => ?_
    exact ⟨⟨hnames, hroom, hargs.2⟩, rfl, rfl, hargs.1⟩

/-! ### The order of the arguments -/

section Order

variable {arguments' : List Argument} (hperm : arguments'.Perm arguments)
  (hpositional : positional arguments' = positional arguments)

include hperm in
/-- The same parameters are left without a name. -/
theorem unnamed_eq_of_perm : f.unnamed arguments' = f.unnamed arguments := by
  have hnames := hperm.filterMap (·.parameter)
  exact List.filter_congr fun p _ => decide_eq_decide.mpr (not_congr hnames.mem_iff)

include hperm hpositional in
/-- **What is given does not depend on the order of the arguments**, as long as those without a name
keep theirs. -/
theorem given_of_perm (h : f.Given arguments p source) : f.Given arguments' p source := by
  cases h with
  | named ha hp hparameter => exact .named (hperm.mem_iff.mpr ha) hp hparameter
  | inOrder hk hsource => exact .inOrder (unnamed_eq_of_perm hperm ▸ hk) (hpositional ▸ hsource)

include hperm hpositional in
theorem admits_of_perm (h : f.Admits types arguments) : f.Admits types arguments' := by
  have hnames := hperm.filterMap (·.parameter)
  refine ⟨⟨fun name hname => ?_, ?_⟩, ?_, fun p source hgiven => ?_⟩
  · exact h.names.known name (hnames.mem_iff.mp hname)
  · exact hnames.nodup_iff.mpr h.names.once
  · rw [hpositional, unnamed_eq_of_perm hperm]
    exact h.room
  · exact h.types p source (given_of_perm hperm.symm hpositional.symm hgiven)

include hperm hpositional in
theorem receives_of_perm (h : f.Receives arguments p source) : f.Receives arguments' p source := by
  refine ⟨fun s hs => ?_, fun hnone => ?_⟩
  · exact h.given s (given_of_perm hperm.symm hpositional.symm hs)
  · exact h.default fun s hs => hnone s (given_of_perm hperm hpositional hs)

end Order

/-- **Arguments reach parameters exactly.** A call of a function of a registry, whose parameters
have different names and defaults of their types, is bound if and only if the function takes its
arguments: each name is that of a parameter, no name comes twice, there are no more other arguments
than parameters that are not named, and the type of each argument goes with that of its parameter.
What is not bound is refused as a mismatch with the signature. What is bound has one source for each
parameter: the argument that names it, or the one without a name of its number among those not
named, or else its default. So the order of the arguments does not matter, but for the order of
those without a name. -/
theorem bind_admits {registry : Registry} {function : String}
    (hfound : registry.require function = .ok f) (hdistinct : (f.parameters.map (·.name)).Nodup)
    (hdefaults : ∀ p ∈ f.parameters, ∃ v, p.defaultValue = .ok v) (types : Types) (stepId : String)
    (arguments : List Argument) :
    ((∃ call, bind registry types stepId function arguments = .ok call) ↔
        f.Admits types arguments) ∧
      Ends (bind registry types stepId function arguments)
        (fun call => call.stepId = stepId ∧ call.function = f ∧
          List.Forall₂ (f.Receives arguments) f.parameters call.args)
        (fun e => e.kind? = some .signatureMismatch) ∧
      ∀ arguments' : List Argument, arguments'.Perm arguments →
        positional arguments' = positional arguments →
        EndAlike (bind registry types stepId function arguments')
          (bind registry types stepId function arguments) Eq
          fun e e' => e.kind? = some .signatureMismatch ∧ e'.kind? = some .signatureMismatch := by
  have hends : ∀ arguments, _ := fun arguments =>
    @ends_bind f stepId types arguments registry function hfound hdistinct hdefaults
  refine ⟨?admitted, (hends arguments).mono (fun _ h => h.2) fun _ h => h.2, ?rearranged⟩
  case admitted =>
    cases hbind : bind registry types stepId function arguments with
    | ok call => exact iff_of_true ⟨call, rfl⟩ ((hends arguments).of_ok hbind).1
    | error e =>
      have hno : ¬∃ call, (.error e : Except RuleError BoundCall) = .ok call :=
        not_exists.mpr fun _ h => nomatch h
      exact iff_of_false hno ((hends arguments).of_error hbind).1
  case rearranged =>
    intro arguments' hperm hpositional
    have hadmits : f.Admits types arguments' ↔ f.Admits types arguments :=
      ⟨admits_of_perm hperm.symm hpositional.symm, admits_of_perm hperm hpositional⟩
    cases hbind' : bind registry types stepId function arguments' with
    | error e' =>
      obtain ⟨hno, hkind'⟩ := (hends arguments').of_error hbind'
      cases hbind : bind registry types stepId function arguments with
      | error e => exact ⟨hkind', ((hends arguments).of_error hbind).2⟩
      | ok call => exact absurd (hadmits.mpr ((hends arguments).of_ok hbind).1) hno
    | ok call' =>
      obtain ⟨hyes, hstep', hfunction', hargs'⟩ := (hends arguments').of_ok hbind'
      cases hbind : bind registry types stepId function arguments with
      | error e => exact absurd (hadmits.mp hyes) ((hends arguments).of_error hbind).1
      | ok call =>
        obtain ⟨-, hstep, hfunction, hargs⟩ := (hends arguments).of_ok hbind
        have hsame : call'.args = call.args :=
          List.right_unique_forall₂' rightUnique_receives hargs'
            (hargs.imp fun _ _ => receives_of_perm hperm hpositional)
        calc call' = ⟨stepId, f, call'.args⟩ := by rw [← hstep', ← hfunction']
          _ = ⟨stepId, f, call.args⟩ := by rw [hsame]
          _ = call := by rw [← hstep, ← hfunction]

/-! ### A call with one name -/

/-- The arguments of a call that cuts a word off: a length, and the word by its name. -/
def cutWord : List Argument :=
  [{ source := .literal (.int 2) .number },
    { source := .input "word", parameter := some "inputText" }]

/-- The function that is called, which stands third among those on texts. -/
def cutting : Entry :=
  Catalogue.texts[2]

/-- The call is bound, with the word in front and the default for the start; and so it is with the
arguments the other way round. -/
theorem cutWord_bind_admits :
    Catalogue.standard.require "SUB_STRING" = .ok cutting ∧
      (cutting.parameters.map (·.name)).Nodup ∧
      (∀ p ∈ cutting.parameters, ∃ v, p.defaultValue = .ok v) ∧
      (∃ call, bind Catalogue.standard [("word", .string)] "cut" "SUB_STRING" cutWord = .ok call ∧
        call.args = [.input "word", .literal (.int 2) .number,
          .literal (.decimal (.ofInt 0)) .number]) ∧
      cutting.Admits [("word", .string)] cutWord ∧
      EndAlike (bind Catalogue.standard [("word", .string)] "cut" "SUB_STRING" cutWord.reverse)
        (bind Catalogue.standard [("word", .string)] "cut" "SUB_STRING" cutWord) Eq
        fun e e' => e.kind? = some .signatureMismatch ∧ e'.kind? = some .signatureMismatch := by
  have hfound : Catalogue.standard.require "SUB_STRING" = .ok cutting := rfl
  have hdistinct : (cutting.parameters.map (·.name)).Nodup := by decide
  have hdefaults : ∀ p ∈ cutting.parameters, ∃ v, p.defaultValue = .ok v :=
    List.forall_mem_cons.mpr ⟨⟨_, rfl⟩, List.forall_mem_cons.mpr ⟨⟨_, rfl⟩,
      List.forall_mem_singleton.mpr ⟨_, rfl⟩⟩⟩
  have hcall : ∃ call, bind Catalogue.standard [("word", .string)] "cut" "SUB_STRING" cutWord =
      .ok call ∧ call.args = [.input "word", .literal (.int 2) .number,
        .literal (.decimal (.ofInt 0)) .number] := ⟨_, rfl, rfl⟩
  obtain ⟨hadmits, -, hrearranged⟩ :=
    bind_admits hfound hdistinct hdefaults [("word", .string)] "cut" cutWord
  refine ⟨hfound, hdistinct, hdefaults, hcall, hadmits.mp ?_,
    hrearranged cutWord.reverse cutWord.reverse_perm rfl⟩
  obtain ⟨call, hbind, -⟩ := hcall
  exact ⟨call, hbind⟩

end BoundCall

end RuleFlow
