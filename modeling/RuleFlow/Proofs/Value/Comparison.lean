import Mathlib.Data.List.Forall2
import RuleFlow.Proofs.Value.Conversion

/-!
# Comparisons and what escapes them

A comparison answers with a truth value, or refuses its sides as mismatched, which ends a run with
a failure. Conversions are guarded for this: whatever they run into becomes a mismatch. This file
tells exactly which comparisons escape it.

## What escapes

Two sides of no declared type are not converted at first. If both are numbers they are converted
after all, and nobody catches what this runs into; if they are not, they are compared as they are,
and equality may come to a number that signals.

* `RuleFlow.Value.sameItem_eq_error_iff`: equality of items fails where that of values does.
* `RuleFlow.Value.Clashes` are the values whose equality comes to a number that signals, and
  `RuleFlow.Value.same_eq_error_iff` is that law.
* `RuleFlow.Value.Unguarded` are the comparisons that escape.
* `RuleFlow.Value.ends_compare_of_guarded` and `RuleFlow.Value.compare_of_unguarded` tell what the
  others and what these come to.
-/

namespace RuleFlow

namespace Value

/-! ### Equality -/

/-- **A clash**: equality comes to two numbers one of which signals. Lists and records are the same
up to the items or fields that clash. -/
inductive Clashes : Value → Value → Prop
  /-- Two numbers clash if one of them signals. -/
  | number {v w : Value} {d e : Number.Decimal} : v.number? = some d → w.number? = some e →
      d.isSignaling = true ∨ e.isSignaling = true → Clashes v w
  /-- Two lists of one length clash where the first items that are not the same do. -/
  | item {before before' after after' : List Value} {v w : Value} :
      List.Forall₂ (fun v w => sameItem v w = .ok true) before before' → Clashes v w →
      after.length = after'.length →
      Clashes (.list (before ++ v :: after)) (.list (before' ++ w :: after'))
  /-- Two records of one size clash where the first field that is not the same in the other does. -/
  | field {before after fields : List (String × Value)} {key : String} {v w : Value} :
      (∀ field ∈ before, ∃ w, Keyed.find? fields field.1 = some w ∧
        sameItem field.2 w = .ok true) →
      Keyed.find? fields key = some w → Clashes v w →
      (before ++ (key, v) :: after).length = fields.length →
      Clashes (.record (before ++ (key, v) :: after)) (.record fields)

variable {v w : Value} {f : Fault}

/-- Equality of numbers, of whatever kinds. -/
theorem same_of_number? {d : Number.Decimal} (h : v.number? = some d) (w : Value) :
    same v w = w.number?.elim (.ok false) (sameNumber d) := by
  cases v with
  | bool | int | float | decimal =>
    obtain rfl := Option.some.inj h
    rfl
  | _ => exact nomatch h

/-- Values that are one object are doubles, and equality of doubles does not fail. -/
theorem same_ne_error_of_identical (h : identical v w = true) : same v w ≠ .error f := by
  rw [identical.eq_def] at h
  split at h
  next x y =>
    have hsignals : (x.toDecimal.isSignaling || y.toDecimal.isSignaling) = false := by
      rw [x.isSignaling_toDecimal, y.isSignaling_toDecimal]
      rfl
    have hnumber : same (.float x) (.float y) = sameNumber x.toDecimal y.toDecimal := rfl
    simp [hnumber, sameNumber, hsignals]
  next => exact nomatch h

/-- **Where equality fails**, it fails for items and fields. -/
theorem sameItem_eq_error_iff : sameItem v w = .error f ↔ same v w = .error f := by
  rw [sameItem, orIdentical]
  split_ifs with hidentical
  · exact iff_of_false nofun (same_ne_error_of_identical hidentical)
  · rfl

theorem sameItems_cons (v w : Value) (vs ws : List Value) :
    sameItems (v :: vs) (w :: ws) =
      match sameItem v w with
      | .ok true => sameItems vs ws
      | other => other := rfl

theorem sameFields_cons (field : String × Value) (rest fields : List (String × Value)) :
    sameFields (field :: rest) fields =
      match Keyed.find? fields field.1 with
      | none => .ok false
      | some w =>
        match sameItem field.2 w with
        | .ok true => sameFields rest fields
        | other => other := rfl

/-- Items that are the same are passed over. -/
theorem sameItems_append {before before' : List Value}
    (h : List.Forall₂ (fun v w => sameItem v w = .ok true) before before') (vs ws : List Value) :
    sameItems (before ++ vs) (before' ++ ws) = sameItems vs ws := by
  induction h with
  | nil => rfl
  | cons hsame _ ih => rw [List.cons_append, List.cons_append, sameItems_cons, hsame, ih]

/-- Fields that are the same in the other record are passed over. -/
theorem sameFields_append {before fields : List (String × Value)}
    (h : ∀ field ∈ before, ∃ w, Keyed.find? fields field.1 = some w ∧
      sameItem field.2 w = .ok true)
    (rest : List (String × Value)) :
    sameFields (before ++ rest) fields = sameFields rest fields := by
  induction before with
  | nil => rfl
  | cons field before ih =>
    obtain ⟨⟨w, hfind, hsame⟩, hbefore⟩ := List.forall_mem_cons.mp h
    rw [List.cons_append, sameFields_cons, hfind]
    dsimp only
    rw [hsame, ih hbefore]

/-- **Values that clash have no equality.** -/
theorem Clashes.same_eq (h : Clashes v w) : same v w = .error (.arithmetic .invalidOperation) := by
  induction h with
  | number hv hw hsignals =>
    rw [same_of_number? hv, hw, Option.elim_some, sameNumber, if_pos (by simpa using hsignals)]
  | item hbefore _ hafter ih =>
    rw [same, if_pos (by simp [hbefore.length_eq, hafter]), sameItems_append hbefore,
      sameItems_cons, sameItem_eq_error_iff.mpr ih]
  | field hbefore hfind _ hlength ih =>
    rw [same, if_pos hlength, sameFields_append hbefore, sameFields_cons, hfind]
    dsimp only
    rw [sameItem_eq_error_iff.mpr ih]

theorem ends_same_of_number? {d : Number.Decimal} (h : v.number? = some d) (w : Value) :
    Ends (same v w) (fun _ => True)
      (fun f => f = .arithmetic .invalidOperation ∧ Clashes v w) := by
  rw [same_of_number? h]
  cases hw : w.number? with
  | none => trivial
  | some e =>
    rw [Option.elim_some, sameNumber]
    split_ifs with hsignals
    · exact ⟨rfl, .number h hw (by simpa using hsignals)⟩
    · trivial

-- The items and fields that were found the same are carried along, so that a clash behind them is one
-- of the whole lists or records.
mutual

/-- **Equality fails only on values that clash.** -/
theorem ends_same : ∀ v w : Value,
    Ends (same v w) (fun _ => True) (fun f => f = .arithmetic .invalidOperation ∧ Clashes v w)
  | .null, _ => trivial
  | .text _, w => by cases w <;> trivial
  | .temporal _, w => by cases w <;> trivial
  | .bool _, w => ends_same_of_number? rfl w
  | .int _, w => ends_same_of_number? rfl w
  | .float _, w => ends_same_of_number? rfl w
  | .decimal _, w => ends_same_of_number? rfl w
  | .list xs, w => by
    cases w with
    | list ys =>
      rw [same]
      split_ifs with hlength
      · exact ends_sameItems xs ys [] [] .nil hlength
      · trivial
    | _ => trivial
  | .record fs, w => by
    cases w with
    | record gs =>
      rw [same]
      split_ifs with hlength
      · exact ends_sameFields fs gs [] (by simp) hlength
      · trivial
    | _ => trivial

theorem ends_sameItems : ∀ vs ws before before' : List Value,
    List.Forall₂ (fun v w => sameItem v w = .ok true) before before' → vs.length = ws.length →
      Ends (sameItems vs ws) (fun _ => True) (fun f => f = .arithmetic .invalidOperation ∧
        Clashes (.list (before ++ vs)) (.list (before' ++ ws)))
  | [], _, _, _, _, _ => trivial
  | _ :: _, [], _, _, _, _ => trivial
  | v :: vs, w :: ws, before, before', hbefore, hlength => by
    have hafter : vs.length = ws.length := Nat.succ.inj hlength
    have hhead := ends_same v w
    rw [sameItems_cons]
    cases hsame : sameItem v w with
    | error f =>
      obtain ⟨rfl, hclash⟩ := hhead.of_error (sameItem_eq_error_iff.mp hsame)
      exact ⟨rfl, .item hbefore hclash hafter⟩
    | ok equal =>
      cases equal with
      | false => trivial
      | true =>
        have hrest := ends_sameItems vs ws (before ++ [v]) (before' ++ [w])
          (List.rel_append hbefore (.cons hsame .nil)) hafter
        simpa using hrest

theorem ends_sameFields : ∀ fs gs before : List (String × Value),
    (∀ field ∈ before, ∃ w, Keyed.find? gs field.1 = some w ∧ sameItem field.2 w = .ok true) →
      (before ++ fs).length = gs.length →
      Ends (sameFields fs gs) (fun _ => True) (fun f => f = .arithmetic .invalidOperation ∧
        Clashes (.record (before ++ fs)) (.record gs))
  | [], _, _, _, _ => trivial
  | (key, v) :: fs, gs, before, hbefore, hlength => by
    rw [sameFields_cons]
    cases hfind : Keyed.find? gs key with
    | none => trivial
    | some w =>
      have hhead := ends_same v w
      dsimp only
      cases hsame : sameItem v w with
      | error f =>
        obtain ⟨rfl, hclash⟩ := hhead.of_error (sameItem_eq_error_iff.mp hsame)
        exact ⟨rfl, .field hbefore hfind hclash hlength⟩
      | ok equal =>
        cases equal with
        | false => trivial
        | true =>
          have hrest := ends_sameFields fs gs (before ++ [(key, v)])
            (forall_mem_snoc.mpr ⟨hbefore, w, hfind, hsame⟩) (by simpa using hlength)
          simpa using hrest

end

/-- **When equality fails.** -/
theorem same_eq_error_iff :
    same v w = .error f ↔ f = .arithmetic .invalidOperation ∧ Clashes v w := by
  constructor
  · exact fun h => (ends_same v w).of_error h
  · rintro ⟨rfl, h⟩
    exact h.same_eq

/-- Only a decimal signals. -/
theorem exists_decimal_of_isSignaling {d : Number.Decimal} (hv : v.number? = some d)
    (hsignals : d.isSignaling = true) : v = .decimal d := by
  cases v with
  | decimal e => exact congrArg decimal (Option.some.inj hv)
  | bool b | int n =>
    obtain rfl := Option.some.inj hv
    exact nomatch hsignals
  | float x =>
    obtain rfl := Option.some.inj hv
    rw [x.isSignaling_toDecimal] at hsignals
    exact nomatch hsignals
  | _ => exact nomatch hv

/-- **Plain values do not clash.** -/
theorem not_clashes_of_isPlain (hv : v.IsPlain) (hw : w.IsPlain) : ¬Clashes v w := by
  intro h
  cases h with
  | number hd he hsignals =>
    rcases hsignals with hsignals | hsignals
    · obtain rfl := exists_decimal_of_isSignaling hd hsignals
      exact nomatch hv.symm.trans hsignals
    · obtain rfl := exists_decimal_of_isSignaling he hsignals
      exact nomatch hw.symm.trans hsignals
  | item _ _ _ => exact hv
  | field _ _ _ _ => exact hv

/-- Of two numbers that clash, one has no finite value. -/
theorem Clashes.isNonFinite (h : Clashes v w) (hv : v.isNumber = true) :
    v.isNonFinite = true ∨ w.isNonFinite = true := by
  have hnonFinite : ∀ d : Number.Decimal,
      d.isSignaling = true → (decimal d).isNonFinite = true := by
    intro d hsignals
    cases d with
    | nan negative signaling payload => rfl
    | _ => exact nomatch hsignals
  cases h with
  | number hd he hsignals =>
    refine hsignals.imp (fun hsignals => ?_) fun hsignals => ?_
    · exact exists_decimal_of_isSignaling hd hsignals ▸ hnonFinite _ hsignals
    · exact exists_decimal_of_isSignaling he hsignals ▸ hnonFinite _ hsignals
  | item _ _ _ => exact nomatch hv
  | field _ _ _ _ => exact nomatch hv

/-! ### Comparisons -/

/-- What a comparison refuses its sides with. -/
def mismatch (op : Operator) (left right : Value) : Trouble :=
  .refused FailureCode.typeMismatch
    s!"Cannot apply {op.name} to {left.typeName} and {right.typeName}"

/-- **A comparison that escapes**: neither side has a declared type, and the comparison comes to a
number that it cannot take. -/
inductive Unguarded : Operator → Value → DataType → Value → DataType → Prop
  /-- Both sides are numbers, and one has no finite value. -/
  | number {op : Operator} {left right : Value} : left.isNumber = true → right.isNumber = true →
      left.isNonFinite = true ∨ right.isNonFinite = true → Unguarded op left .any right .any
  /-- The sides are compared for equality, and clash. -/
  | clash {op : Operator} {left right : Value} : op = .eq ∨ op = .neq → Clashes left right →
      Unguarded op left .any right .any

variable {op : Operator} {left right : Value} {leftType rightType : DataType}

/-- Aligned values clash only if they did before: what is aligned does not clash. -/
theorem Clashes.of_align (h : Clashes (align left right).1 (align left right).2) :
    Clashes left right := by
  rw [align.eq_def] at h
  split at h
  next t u =>
    exact absurd h (not_clashes_of_isPlain (v := .temporal _) (w := .temporal _) trivial trivial)
  next => exact h

/-- **Equality answers** where its sides do not clash. -/
theorem exists_compareConverted_of_not_clashes (hop : op = .eq ∨ op = .neq)
    (h : ¬Clashes left right) (trouble : Trouble) (target : DeclaredType) :
    ∃ equal, compareConverted trouble op target left right = .ok equal := by
  -- The sides that equality looks at: as they are, or aligned with each other.
  have hsides : ∀ sides : Value × Value, sides = (left, right) ∨ sides = align left right →
      ∃ equal, same sides.1 sides.2 = .ok equal := by
    intro sides hfrom
    cases hsame : same sides.1 sides.2 with
    | ok equal => exact ⟨equal, rfl⟩
    | error f =>
      have hclash : Clashes sides.1 sides.2 := (same_eq_error_iff.mp hsame).2
      rcases hfrom with rfl | rfl
      · exact absurd hclash h
      · exact absurd hclash.of_align h
  have hfrom : (if target = .known .date then align left right else (left, right)) = (left, right) ∨
      (if target = .known .date then align left right else (left, right)) = align left right := by
    split_ifs
    · exact .inr rfl
    · exact .inl rfl
  obtain ⟨equal, hequal⟩ := hsides _ hfrom
  rcases hop with rfl | rfl
  · exact ⟨equal == true, by simp only [compareConverted, hequal]; rfl⟩
  · exact ⟨equal == false, by simp only [compareConverted, hequal]; rfl⟩

/-- **A comparison of converted values** fails with nothing but the mismatch, unless it compares
values for equality that clash. -/
theorem ends_compareConverted {trouble : Trouble} {target : DeclaredType}
    (h : op = .eq ∨ op = .neq → ¬Clashes left right) :
    Ends (compareConverted trouble op target left right) (fun _ => True) (· = trouble) := by
  cases op with
  -- Only equality looks into its sides; orders and text tests know a mismatch and nothing else.
  | eq =>
    obtain ⟨equal, hequal⟩ :=
      exists_compareConverted_of_not_clashes (.inl rfl) (h (.inl rfl)) trouble target
    rw [hequal]
    trivial
  | neq =>
    obtain ⟨equal, hequal⟩ :=
      exists_compareConverted_of_not_clashes (.inr rfl) (h (.inr rfl)) trouble target
    rw [hequal]
    trivial
  | lt | lte | gt | gte =>
    simp only [compareConverted]
    split_ifs
    · split
      · trivial
      · rfl
    · rfl
  | contains | notContains | startsWith | endsWith =>
    simp only [compareConverted]
    split
    · trivial
    · rfl

/-- A comparison under a declared type. What its conversions run into becomes the mismatch. -/
theorem compare_of_declared {t : DataType}
    (htarget : targetType (.known leftType) (.known rightType) = .known t) (ht : t ≠ .any) :
    compare op left leftType right rightType =
      match coerceBoth (.known t) left right with
      | .ok (l, r) => compareConverted (mismatch op left right) op (.known t) l r
      | .error _ => .error (mismatch op left right) := by
  have hboth := ends_coerceBoth (.known t) left right
  rw [compare, compareBy]
  simp only [htarget, bind, Except.bind]
  cases hcoerce : coerceBoth (.known t) left right with
  | ok both => simp [ht, mismatch]
  | error f => simp [hboth.of_error hcoerce, mismatch]

/-- A comparison under no declared type, of sides that are not both numbers. -/
theorem compare_any (h : inferType left right ≠ .number) :
    compare op left .any right .any =
      compareConverted (mismatch op left right) op (.known (inferType left right)) left right := by
  rw [compare, compareBy]
  simp [targetType, coerceBoth, DeclaredType.coerce, coerce_any, bind, Except.bind, pure,
    Except.pure, h, mismatch]

/-- A comparison of two numbers under no declared type. Nothing catches what their conversion runs
into. -/
theorem compare_any_of_number (h : inferType left right = .number) :
    compare op left .any right .any =
      match coerceBoth (.known .number) left right with
      | .ok (l, r) => compareConverted (mismatch op left right) op (.known .number) l r
      | .error f => .error (.fault f) := by
  have hany : coerceBoth (.known .any) left right = .ok (left, right) := by
    simp [coerceBoth, DeclaredType.coerce, coerce_any, bind, Except.bind, pure, Except.pure]
  rw [compare, compareBy]
  simp only [targetType, if_true, hany, h, bind, Except.bind]
  cases coerceBoth (.known .number) left right with
  | ok both => rfl
  | error f => rfl

theorem inferType_eq_number_iff :
    inferType left right = .number ↔ left.isNumber = true ∧ right.isNumber = true := by
  rw [inferType]
  split_ifs with hnumber <;> simp_all

/-- Sides that clash are not compared as dates. -/
theorem Clashes.inferType_ne (h : Clashes left right) : inferType left right ≠ .date := by
  intro hdate
  rw [inferType] at hdate
  split_ifs at hdate with hnumber htemporal
  obtain ⟨hleft, hright⟩ := Bool.and_eq_true_iff.mp htemporal
  have hplain : ∀ v : Value, v.isTemporal = true → v.IsPlain := by
    intro v hv
    cases v with
    | temporal t => trivial
    | _ => exact nomatch hv
  exact not_clashes_of_isPlain (hplain left hleft) (hplain right hright) h

/-- A comparison for equality of sides that clash. -/
theorem Clashes.compareConverted_eq (h : Clashes left right) (hop : op = .eq ∨ op = .neq)
    {trouble : Trouble} {target : DeclaredType} (htarget : target ≠ .known .date) :
    compareConverted trouble op target left right =
      .error (.fault (.arithmetic .invalidOperation)) := by
  rcases hop with rfl | rfl
  · simp [compareConverted, htarget, h.same_eq]
  · simp [compareConverted, htarget, h.same_eq]

/-- **Guarded comparisons** answer with a truth value or with the mismatch. -/
theorem ends_compare_of_guarded (h : ¬Unguarded op left leftType right rightType) :
    Ends (compare op left leftType right rightType) (fun _ => True)
      (· = mismatch op left right) := by
  by_cases hany : leftType = .any ∧ rightType = .any
  · obtain ⟨rfl, rfl⟩ := hany
    by_cases hinferred : inferType left right = .number
    -- Two numbers are converted after all. Both have a finite value, so this goes through.
    · obtain ⟨hleft, hright⟩ := inferType_eq_number_iff.mp hinferred
      have hfinite : left.isNonFinite = false ∧ right.isNonFinite = false := by
        by_contra hno
        exact h (.number hleft hright (by simpa [or_iff_not_imp_left] using hno))
      obtain ⟨both, hboth⟩ := (exists_coerceBoth_iff hleft hright).mpr hfinite
      obtain ⟨hl, hr⟩ := isPlain_of_coerceBoth (by decide) hboth
      rw [compare_any_of_number hinferred, hboth]
      exact ends_compareConverted fun _ => not_clashes_of_isPlain hl hr
    · rw [compare_any hinferred]
      exact ends_compareConverted fun hop hclash => h (.clash hop hclash)
  -- One side has a declared type, to which both are converted under guard.
  · obtain ⟨t, htarget, ht⟩ : ∃ t, targetType (.known leftType) (.known rightType) = .known t ∧
        t ≠ .any := by
      by_cases hleft : leftType = .any
      · exact ⟨rightType, by simp [targetType, hleft], fun hright => hany ⟨hleft, hright⟩⟩
      · exact ⟨leftType, by simp [targetType, hleft], hleft⟩
    rw [compare_of_declared htarget ht]
    cases hboth : coerceBoth (.known t) left right with
    | ok both =>
      obtain ⟨hl, hr⟩ := isPlain_of_coerceBoth ht hboth
      exact ends_compareConverted fun _ => not_clashes_of_isPlain hl hr
    | error f => rfl

/-- **Unguarded comparisons** fail with a fault of the values. -/
theorem compare_of_unguarded (h : Unguarded op left leftType right rightType) :
    ∃ f, compare op left leftType right rightType = .error (.fault f) ∧
      (f.isValueFault = true ∨ f = .arithmetic .invalidOperation) := by
  have hnumbers : ∀ {op : Operator} {left right : Value}, left.isNumber = true →
      right.isNumber = true → left.isNonFinite = true ∨ right.isNonFinite = true →
      ∃ f, compare op left .any right .any = .error (.fault f) ∧ f.isValueFault = true := by
    intro op left right hleft hright hnonFinite
    rw [compare_any_of_number (inferType_eq_number_iff.mpr ⟨hleft, hright⟩)]
    cases hboth : coerceBoth (.known .number) left right with
    | ok both =>
      obtain ⟨hl, hr⟩ := (exists_coerceBoth_iff hleft hright).mp ⟨both, hboth⟩
      simp [hl, hr] at hnonFinite
    | error f => exact ⟨f, rfl, (ends_coerceBoth ..).of_error hboth⟩
  cases h with
  | number hleft hright hnonFinite =>
    obtain ⟨f, hf, hvalue⟩ := hnumbers hleft hright hnonFinite
    exact ⟨f, hf, .inl hvalue⟩
  | clash hop hclash =>
    by_cases hinferred : inferType left right = .number
    · obtain ⟨hleft, hright⟩ := inferType_eq_number_iff.mp hinferred
      obtain ⟨f, hf, hvalue⟩ := hnumbers hleft hright (hclash.isNonFinite hleft)
      exact ⟨f, hf, .inl hvalue⟩
    · refine ⟨_, ?_, .inr rfl⟩
      rw [compare_any hinferred]
      exact hclash.compareConverted_eq hop fun h => hclash.inferType_ne (DeclaredType.known.inj h)

/-- **A comparison is closed**: it answers with a truth value, or refuses its sides as
mismatched. -/
def Closed (op : Operator) (left : Value) (leftType : DataType) (right : Value)
    (rightType : DataType) : Prop :=
  (∃ b, compare op left leftType right rightType = .ok b) ∨
    compare op left leftType right rightType = .error (mismatch op left right)

/-- **The closed comparisons** are the guarded ones. -/
theorem closed_iff :
    Closed op left leftType right rightType ↔ ¬Unguarded op left leftType right rightType := by
  constructor
  · intro hclosed hunguarded
    obtain ⟨f, hf, -⟩ := compare_of_unguarded hunguarded
    rcases hclosed with ⟨b, hb⟩ | hmismatch
    · exact nomatch hf.symm.trans hb
    · exact nomatch hf.symm.trans hmismatch
  · intro hguarded
    have hcompare := ends_compare_of_guarded hguarded
    cases hresult : compare op left leftType right rightType with
    | ok b => exact .inl ⟨b, hresult⟩
    | error t => exact .inr (hresult.trans (congrArg Except.error (hcompare.of_error hresult)))

end Value

end RuleFlow
