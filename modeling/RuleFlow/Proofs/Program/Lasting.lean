import RuleFlow.Proofs.Program.Emission
import RuleFlow.Proofs.Rule.Identity

/-!
# Programs that last

A program reads its literals back from its own text, which is safe for values that outlast being
written. Which values stand in it is decided by the rule. This file shows that a program lasts if
the literals and defaults of its rule do, and its numbers are not too long.

Emitting does not write a literal as it stands in the rule: it is converted to its type first. So
what is needed is that conversion makes nothing that does not last: a number that was read is within
the limits of decimals, and a moment that was read has no split second in its offset.

* `RuleFlow.Number.Decimal.withinLimits_of_ofChars?` and `RuleFlow.Calendar.not_splitsSecond_of_read`
  are these two facts.
* `RuleFlow.Value.Lasting.coerce` and `RuleFlow.Value.Lasting.literal`: conversion keeps values that
  last.
* `RuleFlow.Rule.Lasts` says that the values in a rule last, and `RuleFlow.Rule.Lasts.of_emit` that
  those in its program do.
-/

namespace RuleFlow

open Number Calendar Program

/-! ### What has been read -/

namespace Number.Decimal

variable {negative : Bool} {coefficient : Nat} {exponent : Int} {cs : List Char} {d : Decimal}

theorem withinLimits_of_bounded? (h : bounded? negative coefficient exponent = some d) :
    d.WithinLimits := by
  have heq : finite negative coefficient exponent = d := by
    simp only [bounded?] at h
    split_ifs at h
    all_goals exact Option.some.inj h
  subst heq
  exact h

theorem not_isFinite_of_special? (h : special? negative cs = some d) : d.isFinite = false := by
  simp only [special?] at h
  split_ifs at h
  · exact Option.some.inj h ▸ rfl
  · split at h
    · split_ifs at h
      exact Option.some.inj h ▸ rfl
    · cases h

/-- **A number that was read** is within the limits of decimals. -/
theorem withinLimits_of_ofChars? (h : ofChars? cs = some d) (hfinite : d.isFinite = true) :
    d.WithinLimits := by
  rw [ofChars?] at h
  dsimp only at h
  split at h
  next hmagnitude =>
    obtain rfl := Option.some.inj h
    rw [magnitude?_eq] at hmagnitude
    obtain ⟨parts, -, hbounded⟩ := Option.bind_eq_some_iff.mp hmagnitude
    exact withinLimits_of_bounded? hbounded
  next =>
    rw [not_isFinite_of_special? h] at hfinite
    cases hfinite

/-- A whole number of few digits is within the limits. -/
theorem withinLimits_ofInt {n : Int} (h : n.natAbs < tenPow mostDigits) :
    (ofInt n).WithinLimits := by
  refine if_pos ⟨?_, by decide⟩
  have hcount : digitCount n.natAbs ≤ mostDigits := digitCount_le (by decide) h
  have hlimit : exponentLimit = 999999999999999999 := rfl
  have hmost : mostDigits = 4300 := rfl
  split_ifs
  · decide
  · rw [adjusted]
    omega

end Number.Decimal

/-- **The shortest digits of a double** are within the limits of decimals. -/
theorem Number.Binary64.withinLimits_toShortDecimal {x : Binary64}
    (hfinite : x.toShortDecimal.isFinite = true) : x.toShortDecimal.WithinLimits := by
  rw [toShortDecimal] at hfinite ⊢
  cases hread : Decimal.ofChars? x.toChars with
  | none => rfl
  | some d =>
    rw [hread] at hfinite
    exact Decimal.withinLimits_of_ofChars? hread hfinite

namespace Calendar

/-- An offset that was read is none, or is a second or more. -/
theorem Iso.natAbs_of_time? {cs : List Char} {clock : Clock} {micros : Int}
    (h : time? cs = some (clock, some micros)) : micros = 0 ∨ 1000000 ≤ micros.natAbs := by
  rw [time?] at h
  dsimp only at h
  obtain ⟨⟨clock', atEnd⟩, -, h⟩ := Option.bind_eq_some_iff.mp h
  dsimp only at h
  split at h
  next =>
    split_ifs at h
    cases h
  next =>
    split_ifs at h
    cases h
    exact .inl rfl
  next =>
    obtain ⟨⟨⟨hour, minute, second, micro⟩, atEnd'⟩, -, h⟩ := Option.bind_eq_some_iff.mp h
    dsimp only at h
    split_ifs at h
    all_goals
      cases h
      omega

theorem Offset.micros_of {micros : Int} {o : Offset} (h : Offset.of micros = .ok o) :
    o.micros = micros := by
  rw [Offset.of] at h
  split_ifs at h
  exact Except.ok.inj h ▸ rfl

/-- **A moment that was read** has no split second in its offset. -/
theorem not_splitsSecond_of_read {s : String} {m : Moment} (h : readMoment s = .ok m) :
    ¬m.SplitsSecond := by
  rintro ⟨o, hoffset, hne, hsmall⟩
  rw [readMoment] at h
  dsimp only at h
  split at h
  next => cases h
  next year month day hour minute second micro offset hparts =>
    obtain ⟨date, -, hparts⟩ := Option.bind_eq_some_iff.mp hparts
    cases offset with
    | none =>
      obtain ⟨_, hread, h⟩ := bind_eq_ok.mp h
      obtain rfl := Except.ok.inj hread
      obtain ⟨_, -, h⟩ := bind_eq_ok.mp h
      obtain ⟨_, -, h⟩ := bind_eq_ok.mp h
      obtain rfl := Except.ok.inj h
      cases hoffset
    | some micros =>
      obtain ⟨_, hread, h⟩ := bind_eq_ok.mp h
      obtain ⟨o', ho', rfl⟩ := map_eq_ok.mp hread
      obtain ⟨_, -, h⟩ := bind_eq_ok.mp h
      obtain ⟨_, -, h⟩ := bind_eq_ok.mp h
      obtain rfl := Except.ok.inj h
      obtain rfl := Option.some.inj hoffset
      have hmicros := Offset.micros_of ho'
      split_ifs at hparts
      · cases hparts
      · obtain ⟨⟨clock, offset⟩, htime, hparts⟩ := Option.bind_eq_some_iff.mp hparts
        cases hparts
        have hsize := Iso.natAbs_of_time? htime
        omega

end Calendar

/-! ### Conversion -/

namespace Value

variable {v w : Value} {t : DataType}

/-- What lasts is converted to a number within the limits of decimals. -/
theorem Lasting.toNumber {d : Decimal} (hv : v.Lasting) (h : v.toNumber = .ok d) :
    d.WithinLimits := by
  have hfinite : d.isFinite = true := v.ends_toNumber.of_ok h
  cases hv with
  | int hn =>
    obtain rfl := Except.ok.inj h
    exact Decimal.withinLimits_ofInt hn
  | float hx =>
    rw [Value.toNumber] at h
    dsimp only at h
    split_ifs at h
    obtain rfl := Except.ok.inj h
    exact Binary64.withinLimits_toShortDecimal hfinite
  | decimal hd =>
    rw [Value.toNumber] at h
    dsimp only at h
    split_ifs at h
    obtain rfl := Except.ok.inj h
    exact hd
  | infinity negative => cases h
  | text s =>
    rw [Value.toNumber] at h
    split at h
    next hread =>
      dsimp only at h
      split_ifs at h
      obtain rfl := Except.ok.inj h
      exact Decimal.withinLimits_of_ofChars? hread hfinite
    next => cases h
  | _ => cases h

/-- What lasts is converted to a date or a moment that lasts. -/
theorem Lasting.toTemporal {u : Temporal} (hv : v.Lasting) (h : v.toTemporal = .ok u) :
    Lasting (.temporal u) := by
  cases hv with
  | day d =>
    obtain rfl := Except.ok.inj h
    exact .day d
  | moment hm =>
    obtain rfl := Except.ok.inj h
    exact .moment hm
  | text s =>
    rw [Value.toTemporal, mapError_eq_ok, Temporal.ofText] at h
    split_ifs at h
    · obtain ⟨m, hm, rfl⟩ := map_eq_ok.mp h
      exact .moment (not_splitsSecond_of_read hm)
    · obtain ⟨d, -, rfl⟩ := map_eq_ok.mp h
      exact .day d
  | _ => cases h

/-- **Conversion to a declared type** keeps what lasts. -/
theorem Lasting.coerce (hv : v.Lasting) (h : v.coerce t = .ok w) : w.Lasting := by
  by_cases hnull : v.isNull = true
  · rw [Value.coerce.eq_def, if_pos hnull] at h
    exact Except.ok.inj h ▸ hv
  rw [Value.coerce.eq_def, if_neg hnull] at h
  cases t with
  | any => exact Except.ok.inj h ▸ hv
  | string =>
    dsimp only at h
    split_ifs at h
    exact Except.ok.inj h ▸ hv
  | number =>
    obtain ⟨d, hd, rfl⟩ := map_eq_ok.mp h
    exact .decimal (hv.toNumber hd)
  | boolean =>
    obtain ⟨b, -, rfl⟩ := map_eq_ok.mp h
    exact .bool b
  | date =>
    obtain ⟨u, hu, rfl⟩ := map_eq_ok.mp h
    exact hv.toTemporal hu

/-- **The value of a literal** lasts if the literal does. -/
theorem Lasting.literal (hv : v.Lasting) (h : v.literal t = .ok w) : w.Lasting := by
  rw [Value.literal] at h
  split at h
  next hread =>
    obtain rfl := Except.ok.inj h
    rw [ofLiteral.eq_def] at hread
    split at hread
    next =>
      split_ifs at hread
      · obtain ⟨d, hd, rfl⟩ := map_eq_ok.mp hread
        exact .decimal (hv.toNumber hd)
      · exact Except.ok.inj hread ▸ hv
    next => exact hv.coerce hread
  next =>
    split_ifs at h

end Value

/-! ### Sources -/

/-- **A source whose literals last.** -/
def Source.Lasts (source : Source) : Prop :=
  ∀ v ∈ source.literals, v.Lasting

mutual

/-- **What is written in the expression of a source** lasts if the literals of the source do. -/
theorem Source.lasting_of_emit : ∀ {source : Source} {expr : Expr}, source.emit = .ok expr →
    source.Lasts → ∀ v ∈ expr.written, v.Lasting
  | .literal u type, expr, h, hliterals => by
    rw [emit] at h
    obtain ⟨w, hw, rfl⟩ := map_eq_ok.mp h
    exact List.forall_mem_singleton.mpr ((hliterals u List.mem_cons_self).literal hw)
  | .input name, expr, h, _ => by
    rw [emit] at h
    obtain rfl := Except.ok.inj h
    exact List.forall_mem_nil _
  | .variable name, expr, h, _ => by
    rw [emit] at h
    obtain rfl := Except.ok.inj h
    exact List.forall_mem_nil _
  | .array items, expr, h, hliterals => by
    rw [emit] at h
    obtain ⟨exprs, hexprs, rfl⟩ := map_eq_ok.mp h
    exact Source.lasting_of_emitAll hexprs hliterals

theorem Source.lasting_of_emitAll : ∀ {sources : List Source} {exprs : List Expr},
    emitAll sources = .ok exprs → (∀ v ∈ literalsOfAll sources, v.Lasting) →
      ∀ v ∈ Expr.writtenAll exprs, v.Lasting
  | [], exprs, h, _ => by
    obtain rfl := Except.ok.inj h
    exact List.forall_mem_nil _
  | source :: rest, exprs, h, hliterals => by
    obtain ⟨expr, others, hexpr, hothers, rfl⟩ := Context.emitAll_cons_eq_ok h
    obtain ⟨hfirst, hrest⟩ := List.forall_mem_append.mp hliterals
    exact List.forall_mem_append.mpr
      ⟨Source.lasting_of_emit hexpr hfirst, Source.lasting_of_emitAll hothers hrest⟩

end

theorem Source.literalsOfAll_lasting {sources : List Source} (h : ∀ source ∈ sources, source.Lasts) :
    ∀ v ∈ literalsOfAll sources, v.Lasting := by
  induction sources with
  | nil => exact List.forall_mem_nil _
  | cons source rest ih =>
    obtain ⟨hsource, hrest⟩ := List.forall_mem_cons.mp h
    exact List.forall_mem_append.mpr ⟨hsource, ih hrest⟩

/-! ### What a run reads -/

/-- What stands for a value that is left out lasts. -/
theorem DataType.lasting_empty (t : DataType) : t.empty.Lasting := by
  cases t with
  | string => exact .text ""
  | number => exact .decimal rfl
  | boolean => exact .bool false
  | date => exact .null
  | any => exact .null

/-- **The defaults of the standard catalogue** last: each of them is left out, or zero. -/
theorem Catalogue.lasting_default {f : Entry} (hf : f ∈ standard.entries) {p : Parameter}
    (hp : p ∈ f.parameters) {v : Value} (h : p.defaultValue = .ok v) : v.Lasting := by
  have hall : standard.entries.all (fun f => f.parameters.all fun p =>
      match p.default with
      | .null | .int 0 => true
      | _ => false) = true := by
    rfl
  have hone := List.all_eq_true.mp (List.all_eq_true.mp hall f hf) p hp
  have hdefault : p.default.Lasting := by
    split at hone
    next heq => exact heq ▸ .null
    next heq => exact heq ▸ .int_of_lt (by decide : (0 : Int).natAbs < tenPow 1) (by decide)
    next => cases hone
  rw [Parameter.defaultValue] at h
  split_ifs at h
  · exact Except.ok.inj h ▸ p.type.lasting_empty
  · exact hdefault.coerce h

namespace Bindings

variable {registry : Registry} {b b' : Bindings} {P : Source → Prop}

/-- **Every source of a bound call** is like those in the steps and the defaults. -/
theorem forall_args_of_foldlM {steps : List Step}
    (hsources : ∀ s ∈ steps, ∀ source ∈ s.sources, P source)
    (hdefaults : ∀ f ∈ registry.entries, ∀ p ∈ f.parameters, ∀ v, p.defaultValue = .ok v →
      P (.literal v p.type))
    (hcalls : ∀ id call, b.calls.find? id = some call → ∀ source ∈ call.args, P source)
    (h : steps.foldlM (addStep registry) b = .ok b') :
    ∀ id call, b'.calls.find? id = some call → ∀ source ∈ call.args, P source := by
  induction steps generalizing b with
  | nil =>
    obtain rfl := Except.ok.inj h
    exact hcalls
  | cons s rest ih =>
    rw [List.foldlM_cons] at h
    obtain ⟨next, hadd, h⟩ := bind_eq_ok.mp h
    obtain ⟨hfirst, hrest⟩ := List.forall_mem_cons.mp hsources
    refine ih hrest ?_ h
    rcases addStep_eq_ok hadd with
      ⟨-, rfl⟩ | ⟨name, function, arguments, target, call, haction, hbind, rfl⟩
    · exact hcalls
    · obtain ⟨hmem, hargs⟩ := BoundCall.mem_args_of_bind hbind
      intro id call' hfound
      rcases Keyed.find?_set_eq_some hfound with ⟨-, rfl⟩ | ⟨-, hold⟩
      · intro source hsource
        rcases hargs source hsource with hgiven | ⟨p, hp, v, hv, rfl⟩
        · exact hfirst source (by simpa [Step.sources, haction] using hgiven)
        · exact hdefaults _ hmem p hp v hv
      · exact hcalls id call' hold

end Bindings

/-- **Every source that a run reads** is like those in the steps and the defaults. -/
theorem Rule.Compilation.forall_reads {r : Rule} {registry : Registry} {a : Analysis}
    {c : CompiledRule} {P : Source → Prop} (h : r.Compilation registry a c)
    (hsources : ∀ s ∈ r.steps, ∀ source ∈ s.sources, P source)
    (hdefaults : ∀ f ∈ (Rule.effectiveRegistry registry).entries, ∀ p ∈ f.parameters, ∀ v,
      p.defaultValue = .ok v → P (.literal v p.type)) :
    ∀ s ∈ r.steps, ∀ source ∈ c.reads s, P source := by
  obtain ⟨b, hbindings, hcalls, -⟩ := h.bindings
  have hstart : ∀ id call, (Bindings.ofInputs r.inputs).calls.find? id = some call →
      ∀ source ∈ call.args, P source := fun _ _ hfound => nomatch hfound
  have hbound := Bindings.forall_args_of_foldlM (fun s hs =>
    hsources s (h.checked.ordered.mem_steps_iff.mp hs)) hdefaults hstart hbindings
  intro s hs source hsource
  rw [CompiledRule.reads.eq_def] at hsource
  split at hsource
  next =>
    cases hfound : c.calls.find? s.id with
    | none =>
      rw [hfound] at hsource
      cases hsource
    | some call =>
      rw [hfound] at hsource
      exact hbound s.id call (hcalls ▸ hfound) source hsource
  next => exact hsources s hs source hsource

/-! ### Programs -/

/-- **The values in a rule last**: its literals and defaults, and the error codes that it tells. -/
structure Rule.Lasts (r : Rule) : Prop where
  /-- The literals and defaults last. -/
  literals : ∀ v ∈ r.literals, v.Lasting
  /-- An error code has few digits. -/
  codes : ∀ s ∈ r.steps, ∀ code message, s.action = .output (.failure code message) →
    Value.Lasting (.int code)

namespace CompiledRule

variable {c : CompiledRule} {s : Step} {p : Program} {limit : Int}

theorem lasting_of_emitCondition {condition : Condition} {statement : Statement}
    (h : c.emitCondition condition = .ok statement) (hleft : condition.lhs.Lasts)
    (hright : condition.rhs.Lasts) : ∀ v ∈ statement.written, v.Lasting := by
  rw [emitCondition] at h
  obtain ⟨left, hl, h⟩ := bind_eq_ok.mp h
  obtain ⟨right, hr, h⟩ := bind_eq_ok.mp h
  obtain rfl := Except.ok.inj h
  exact List.forall_mem_append.mpr
    ⟨Source.lasting_of_emit hl hleft, Source.lasting_of_emit hr hright⟩

/-- **What is written in the block of a step** lasts if what the step reads does. -/
theorem lasting_of_emitStep {statements : List Statement} (h : c.emitStep s = .ok statements)
    (hreads : ∀ source ∈ c.reads s, source.Lasts)
    (hcode : ∀ code message, s.action = .output (.failure code message) →
      Value.Lasting (.int code)) :
    ∀ statement ∈ statements, ∀ v ∈ statement.written, v.Lasting := by
  rw [emitStep.eq_def] at h
  split at h
  next result function arguments next haction =>
    split at h
    next => cases h
    next call hcall =>
      obtain ⟨exprs, hexprs, h⟩ := bind_eq_ok.mp h
      obtain rfl := Except.ok.inj h
      rw [reads_of_call haction hcall] at hreads
      have hargs := Source.lasting_of_emitAll hexprs (Source.literalsOfAll_lasting hreads)
      simpa [Statement.written] using hargs
  next conditions onTrue onFalse haction =>
    obtain ⟨emitted, hemitted, h⟩ := bind_eq_ok.mp h
    obtain rfl := Except.ok.inj h
    refine forall_mem_snoc.mpr ⟨fun statement hstatement => ?_, List.forall_mem_nil _⟩
    obtain ⟨condition, hmem, hcondition⟩ := (mem_of_mapM_eq_ok hemitted).2 statement hstatement
    obtain ⟨hleft, hright⟩ := mem_reads_of_branch (c := c) haction hmem
    exact lasting_of_emitCondition hcondition (hreads _ hleft) (hreads _ hright)
  next value haction =>
    obtain ⟨expr, hexpr, rfl⟩ := map_eq_ok.mp h
    refine List.forall_mem_singleton.mpr (Source.lasting_of_emit hexpr (hreads value ?_))
    simp [reads, Step.sources, haction]
  next code message haction =>
    obtain ⟨expr, hexpr, rfl⟩ := map_eq_ok.mp h
    refine List.forall_mem_singleton.mpr (List.forall_mem_cons.mpr ⟨hcode code message haction, ?_⟩)
    refine Source.lasting_of_emit hexpr (hreads message ?_)
    simp [reads, Step.sources, haction]

end CompiledRule

/-- **A program lasts** if the values in its rule and its bound do. -/
theorem Rule.Lasts.of_emit {r : Rule} {c : CompiledRule} {p : Program} {limit : Int}
    (hr : r.Lasts) (hcompile : r.compile Catalogue.standard = .ok c)
    (hemit : c.emit limit = .ok p) (hlimit : Value.Lasting (.int limit)) : p.Lasts := by
  obtain ⟨a, hcompilation⟩ := exists_compilation hcompile
  obtain ⟨rfl, haccepted⟩ := accepted_of_compile Catalogue.defaultsRead hcompile
  obtain ⟨p', hp', hemitted⟩ := CompiledRule.exists_emit haccepted limit
  obtain rfl : p = p' := Except.ok.inj (hemit.symm.trans hp')
  obtain ⟨hdefaults, hsteps⟩ := List.forall_mem_append.mp hr.literals
  have hsources : ∀ s ∈ c.rule.steps, ∀ source ∈ s.sources, source.Lasts := by
    intro s hs source hsource v hv
    exact hsteps v (List.mem_flatMap.mpr ⟨s, hs, List.mem_flatMap.mpr ⟨source, hsource, hv⟩⟩)
  have hreads := hcompilation.forall_reads hsources fun f hf p hp v hv =>
    List.forall_mem_singleton.mpr (Catalogue.lasting_default hf hp hv)
  have hblocks : ∀ block ∈ p.blocks, ∀ statement ∈ block.2, ∀ v ∈ statement.written,
      v.Lasting := by
    intro block hblock
    obtain ⟨s, hs, hemitted⟩ := CompiledRule.exists_emitStep_of_mem hemit hblock
    exact CompiledRule.lasting_of_emitStep hemitted (hreads s hs) (hr.codes s hs)
  have hinputs : p.inputs.map (·.default) = c.rule.inputs.map (·.default) := by
    rw [hemitted.inputs, List.map_map]
    rfl
  rw [Program.Lasts, written, hemitted.limit, hinputs]
  refine List.forall_mem_cons.mpr ⟨hlimit, List.forall_mem_append.mpr ⟨hdefaults, fun v hv => ?_⟩⟩
  obtain ⟨block, hblock, hv⟩ := List.mem_flatMap.mp hv
  obtain ⟨statement, hstatement, hv⟩ := List.mem_flatMap.mp hv
  exact hblocks block hblock statement hstatement v hv

end RuleFlow
