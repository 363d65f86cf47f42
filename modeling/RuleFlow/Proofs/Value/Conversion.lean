import RuleFlow.Proofs.Number.Numeral
import RuleFlow.Value.Compare

/-!
# What conversions come to

A conversion to a declared type goes through or fails with one of the ordinary faults of values,
which callers turn into messages of their own. What it gives is plain: nothing that is in several
parts, and no number that refuses to be compared.

* `RuleFlow.Value.ends_coerce` and `RuleFlow.Value.ends_coerceDeclared` are that statement, for the
  types and for whatever a declaration names.
* `RuleFlow.Value.exists_toNumber_iff`: of the numbers, the conversion to a number refuses those
  that are infinite or not a number (`RuleFlow.Value.isNonFinite`).
* `RuleFlow.Value.OfType` says which values a type stands for once they are converted, and
  `RuleFlow.Value.ofType_of_coerce` that conversions give such values.
-/

namespace RuleFlow

/-! ### Reading dates -/

namespace Calendar

theorem Date.ends_of (year month day : Int) :
    Ends (Date.of year month day) (fun _ => True) (fun e => e.isOverflow = false) := by
  rw [Date.of]
  split_ifs
  · trivial
  · rfl
  · rfl
  · rfl

theorem TimeOfDay.ends_of (hour minute second micro : Nat) :
    Ends (TimeOfDay.of hour minute second micro) (fun _ => True)
      (fun e => e.isOverflow = false) := by
  rw [TimeOfDay.of]
  split_ifs
  · trivial
  · rfl
  · rfl
  · rfl

theorem Offset.ends_of (micros : Int) :
    Ends (Offset.of micros) (fun _ => True) (fun e => e.isOverflow = false) := by
  rw [Offset.of]
  split_ifs
  · trivial
  · rfl

theorem ends_readDate (s : String) :
    Ends (readDate s) (fun _ => True) (fun e => e.isOverflow = false) := by
  rw [readDate]
  split
  · rfl
  · exact Date.ends_of ..

theorem ends_readMoment (s : String) :
    Ends (readMoment s) (fun _ => True) (fun e => e.isOverflow = false) := by
  rw [readMoment]
  dsimp only
  split
  · rfl
  next year month day hour minute second micro offset _ =>
    have hfields : ∀ offset : Option Offset, Ends (do
        let date ← Date.of year month day
        let time ← TimeOfDay.of hour minute second micro
        return ⟨date, time, offset⟩ : Except Error Moment)
        (fun _ => True) (fun e => e.isOverflow = false) := fun _ =>
      (Date.ends_of ..).bind fun _ _ => (TimeOfDay.ends_of ..).bind fun _ _ => trivial
    cases offset with
    | none => exact hfields none
    | some micros =>
      have hoffset : Ends ((Offset.of micros).map some) (fun _ => True)
          (fun e => e.isOverflow = false) := (Offset.ends_of micros).map fun _ _ => trivial
      exact hoffset.bind fun offset _ => hfields offset

/-- **A text that is no date** is malformed or has a field out of range; no field of it is too long
to be looked at. -/
theorem isOverflow_of_ofText {s : String} {e : Error} (h : Temporal.ofText s = .error e) :
    e.isOverflow = false := by
  simp only [Temporal.ofText] at h
  -- How a text is trimmed does not matter; spelled out, it would be computed with at every step.
  generalize Text.trim s = text at h
  split at h
  · exact (ends_readMoment text).of_error (map_eq_error.mp h)
  · exact (ends_readDate text).of_error (map_eq_error.mp h)

end Calendar

/-- The exact decimal of a double does not signal. -/
theorem Number.Binary64.isSignaling_toDecimal (x : Binary64) : x.toDecimal.isSignaling = false := by
  cases x with
  | finite y =>
    rw [toDecimal]
    split_ifs
    · rfl
    · rfl
  | infinite negative => rfl
  | nan which => rfl

namespace Value

/-! ### Conversions to one type -/

/-- **A number without a finite value**: infinite, or not a number. -/
def isNonFinite : Value → Bool
  | .float (.finite _) => false
  | .float _ => true
  | .decimal d => !d.isFinite
  | _ => false

/-- What a conversion to a number comes to, if the decimal of the value is known. -/
theorem ends_finite (v : Value) (d : Number.Decimal) :
    Ends (if d.isFinite then .ok d else .error (.notFinite v) : Except Fault Number.Decimal)
      (fun d => d.isFinite = true) (fun f => f.isValueFault = true) := by
  split_ifs with hfinite
  · exact hfinite
  · rfl

theorem ends_toNumber (v : Value) :
    Ends v.toNumber (fun d => d.isFinite = true) (fun f => f.isValueFault = true) := by
  rw [toNumber.eq_def]
  split
  · exact ends_finite ..
  · rfl
  · exact ends_finite ..
  · split
    · exact ends_finite ..
    · rfl
  · rfl

/-- **The numbers that become a finite decimal** are those that have a finite value. -/
theorem exists_toNumber_iff {v : Value} (h : v.isNumber = true) :
    (∃ d, v.toNumber = .ok d) ↔ v.isNonFinite = false := by
  have hfinite : ∀ d : Number.Decimal,
      (∃ e, (if d.isFinite then .ok d else .error (.notFinite v) : Except Fault Number.Decimal) =
        .ok e) ↔ d.isFinite = true := by
    intro d
    split_ifs with hfinite
    · simp [hfinite]
    · simp [hfinite]
  cases v with
  | int n => exact ⟨fun _ => rfl, fun _ => ⟨_, rfl⟩⟩
  | float x =>
    rw [toNumber, hfinite, x.isFinite_toShortDecimal_iff]
    cases x <;> simp [isNonFinite]
  | decimal d =>
    rw [toNumber, hfinite]
    simp [isNonFinite]
  | _ => exact nomatch h

theorem ends_toBoolean (v : Value) :
    Ends v.toBoolean (fun _ => True) (fun f => f.isValueFault = true) := by
  rw [toBoolean.eq_def]
  split
  · trivial
  · trivial
  · trivial
  · rfl

theorem ends_toTemporal (v : Value) :
    Ends v.toTemporal (fun _ => True) (fun f => f.isValueFault = true) := by
  rw [toTemporal.eq_def]
  split
  · trivial
  next s =>
    cases hread : Calendar.Temporal.ofText s with
    | ok t => trivial
    | error e =>
      have he := Calendar.isOverflow_of_ofText hread
      simp [Except.mapError, Fault.isValueFault, Fault.className, he]
  · rfl

/-! ### Conversions to a declared type -/

/-- **A plain value** is not in several parts, and is no number that signals. -/
def IsPlain : Value → Prop
  | .list _ | .record _ => False
  | .decimal d => d.isSignaling = false
  | _ => True

theorem isPlain_of_isFinite {d : Number.Decimal} (h : d.isFinite = true) : (decimal d).IsPlain := by
  cases d with
  | finite negative coefficient exponent => rfl
  | infinite negative => exact nomatch h
  | nan negative signaling payload => exact nomatch h

/-- Everything has the type `any` as it is. -/
theorem coerce_any (v : Value) : v.coerce .any = .ok v := by
  rw [coerce.eq_def]
  by_cases hnull : v.isNull = true
  · rw [if_pos hnull]
  · rw [if_neg hnull]

/-- **Conversions fail on values only**, and to any type but `any` they give plain values. -/
theorem ends_coerce (v : Value) (t : DataType) :
    Ends (v.coerce t) (fun w => t ≠ .any → w.IsPlain) (fun f => f.isValueFault = true) := by
  rw [coerce.eq_def]
  by_cases hnull : v.isNull = true
  · rw [if_pos hnull]
    cases v with
    | null => exact fun _ => trivial
    | _ => exact nomatch hnull
  rw [if_neg hnull]
  cases t with
  | any => exact fun hany => absurd rfl hany
  | string =>
    cases v with
    | text s => exact fun _ => trivial
    | _ => rfl
  | number => exact v.ends_toNumber.map fun d hd _ => isPlain_of_isFinite hd
  | boolean => exact v.ends_toBoolean.map fun _ _ _ => trivial
  | date => exact v.ends_toTemporal.map fun _ _ _ => trivial

/-- **The values of a type**: texts, decimals, truth values, and dates or moments. Every value has
the type `any`. -/
def OfType (v : Value) : DataType → Prop
  | .string => ∃ s, v = .text s
  | .number => ∃ d, v = .decimal d
  | .boolean => ∃ b, v = .bool b
  | .date => ∃ t, v = .temporal t
  | .any => True

/-- **The values that represent a type** in a run: texts, decimals with a finite value, truth
values, dates and moments. -/
def Represents (v : Value) (t : DataType) : Prop :=
  v.OfType t ∧ v.isNonFinite = false

/-- **Whatever is not nothing** is converted to a value of the type. -/
theorem ofType_of_coerce {v w : Value} {t : DataType} (hnull : ¬v.isNull = true)
    (h : v.coerce t = .ok w) : w.OfType t := by
  rw [coerce.eq_def, if_neg hnull] at h
  cases t with
  | any => trivial
  | string =>
    cases v with
    | text s => exact ⟨s, (Except.ok.inj h).symm⟩
    | _ => exact nomatch h
  | number | boolean | date =>
    obtain ⟨x, -, rfl⟩ := map_eq_ok.mp h
    exact ⟨x, rfl⟩

theorem ends_coerceDeclared (v : Value) (t : DeclaredType) :
    Ends (t.coerce v) (fun _ => True) (fun f => f.isValueFault = true) := by
  cases t with
  | known t => exact (v.ends_coerce t).mono (fun _ _ => trivial) fun _ h => h
  | unknown name =>
    rw [DeclaredType.coerce]
    split_ifs
    · trivial
    · rfl

theorem coerceBoth_eq_ok {t : DeclaredType} {left right : Value} {both : Value × Value} :
    coerceBoth t left right = .ok both ↔
      t.coerce left = .ok both.1 ∧ t.coerce right = .ok both.2 := by
  simp only [coerceBoth, bind_eq_ok]
  constructor
  · rintro ⟨l, hl, r, hr, hboth⟩
    obtain rfl := Except.ok.inj hboth
    exact ⟨hl, hr⟩
  · rintro ⟨hl, hr⟩
    exact ⟨_, hl, _, hr, rfl⟩

/-- **Converting both sides** of a comparison. -/
theorem ends_coerceBoth (t : DeclaredType) (left right : Value) :
    Ends (coerceBoth t left right) (fun _ => True) (fun f => f.isValueFault = true) :=
  (left.ends_coerceDeclared t).bind fun _ _ => (right.ends_coerceDeclared t).bind fun _ _ => trivial

/-- Converted sides are plain. -/
theorem isPlain_of_coerceBoth {t : DataType} (ht : t ≠ .any) {left right : Value}
    {both : Value × Value} (h : coerceBoth (.known t) left right = .ok both) :
    both.1.IsPlain ∧ both.2.IsPlain := by
  obtain ⟨hl, hr⟩ := coerceBoth_eq_ok.mp h
  exact ⟨(left.ends_coerce t).of_ok hl ht, (right.ends_coerce t).of_ok hr ht⟩

/-- What a number is made as a value of the type of numbers. -/
theorem coerce_number {v : Value} (h : v.isNumber = true) :
    v.coerce .number = v.toNumber.map .decimal := by
  have hnull : ¬v.isNull = true := by
    cases v with
    | null => exact nomatch h
    | _ => exact nofun
  rw [coerce.eq_def, if_neg hnull]

/-- **Two numbers are converted** if both have a finite value. -/
theorem exists_coerceBoth_iff {left right : Value} (hleft : left.isNumber = true)
    (hright : right.isNumber = true) :
    (∃ both, coerceBoth (.known .number) left right = .ok both) ↔
      left.isNonFinite = false ∧ right.isNonFinite = false := by
  have hcoerce : ∀ v : Value, v.isNumber = true →
      ((∃ w, v.coerce .number = .ok w) ↔ v.isNonFinite = false) := by
    intro v hv
    rw [coerce_number hv, ← exists_toNumber_iff hv]
    simp only [map_eq_ok]
    exact ⟨fun ⟨_, d, hd, _⟩ => ⟨d, hd⟩, fun ⟨d, hd⟩ => ⟨_, d, hd, rfl⟩⟩
  rw [← hcoerce left hleft, ← hcoerce right hright]
  simp only [coerceBoth_eq_ok]
  exact ⟨fun ⟨both, hl, hr⟩ => ⟨⟨_, hl⟩, _, hr⟩, fun ⟨⟨l, hl⟩, r, hr⟩ => ⟨(l, r), hl, hr⟩⟩

end Value

end RuleFlow
