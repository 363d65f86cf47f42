import RuleFlow.Proofs.Calendar.IsoText
import RuleFlow.Proofs.Value.Conversion
import RuleFlow.Value.Display

/-!
# The texts of values are converted back

The text that a rule makes of a value can be given back to it as an input. This file shows which
value it then becomes: the same one, to the last trailing zero of a decimal and the last microsecond
of a moment. There is one exception, which the reading of offsets brings with it.

* `RuleFlow.Value.coerce_stringify` says what the text of a value is converted to.
* `RuleFlow.Value.coerce_stringify_iff` is the result: the value itself comes back unless it is a
  moment whose offset is less than a second and not zero.
* `RuleFlow.splitSecond_not_read_back` is such a moment.
-/

namespace RuleFlow

open Number Calendar

namespace Calendar

/-- What comes back of an offset is the offset, unless it is less than a second and not zero. -/
theorem Offset.readBack_eq_self_iff (o : Offset) :
    o.readBack = o ↔ ¬(o.micros ≠ 0 ∧ o.micros.natAbs < 1000000) := by
  rw [readBack]
  split_ifs with hless
  · constructor
    · rintro heq ⟨hne, -⟩
      exact hne (congrArg Offset.micros heq).symm
    · intro hno
      have hzero : o.micros = 0 := by
        by_contra hne
        exact hno ⟨hne, hless⟩
      obtain ⟨micros, valid⟩ := o
      obtain rfl : micros = 0 := hzero
      rfl
  · exact ⟨fun _ h => hless h.2, fun _ => rfl⟩

/-- **A moment with a split second in its offset**: the offset is less than a second either way, and
not zero. -/
def Moment.SplitsSecond (m : Moment) : Prop :=
  ∃ o, m.offset = some o ∧ o.micros ≠ 0 ∧ o.micros.natAbs < 1000000

theorem Moment.readBack_eq_self_iff (m : Moment) : m.readBack = m ↔ ¬m.SplitsSecond := by
  have hoffset : m.readBack = m ↔ m.offset.map Offset.readBack = m.offset := by
    constructor
    · exact fun h => congrArg Moment.offset h
    · intro h
      rw [readBack, h]
  rw [hoffset, SplitsSecond]
  cases m.offset with
  | none => simp
  | some o => simp [o.readBack_eq_self_iff]

end Calendar

namespace Value

variable {v : Value} {t : DataType}

/-- **The value that comes back.** -/
def readBack : Value → Value
  | .temporal t => .temporal t.readBack
  | v => v

/-- A value is a moment with a split second in its offset. -/
def SplitsSecond (v : Value) : Prop :=
  ∃ m, v = .temporal (.moment m) ∧ m.SplitsSecond

theorem splitsSecond_moment_iff (m : Moment) :
    (temporal (.moment m)).SplitsSecond ↔ m.SplitsSecond := by
  constructor
  · rintro ⟨m', heq, h⟩
    obtain rfl := Temporal.moment.inj (temporal.inj heq)
    exact h
  · exact fun h => ⟨m, rfl, h⟩

/-- A value comes back as it is, unless it has a split second in its offset. -/
theorem readBack_eq_self_iff (v : Value) : v.readBack = v ↔ ¬v.SplitsSecond := by
  cases v with
  | temporal t =>
    cases t with
    | day d => simp [readBack, Temporal.readBack, SplitsSecond]
    | moment m =>
      rw [splitsSecond_moment_iff, ← m.readBack_eq_self_iff]
      simp [readBack, Temporal.readBack]
  | _ => simp [readBack, SplitsSecond]

/-- **The text of a value of a type** is converted to the value that comes back. -/
theorem coerce_stringify (ht : t ≠ .any) (hv : v.OfType t)
    (hlimits : ∀ d, v = .decimal d → d.WithinLimits) :
    (text v.stringify).coerce t = .ok v.readBack := by
  cases t with
  | string =>
    obtain ⟨s, rfl⟩ := hv
    rw [stringify]
    rfl
  | number =>
    obtain ⟨d, rfl⟩ := hv
    have hwithin : d.WithinLimits := hlimits d rfl
    have hfinite : d.isFinite = true := by
      cases d with
      | finite negative coefficient exponent => rfl
      | _ => exact hwithin.elim
    have hnumber : (text d.toText).toNumber = .ok d := by
      simp [toNumber, Decimal.ofText?_toText hwithin, hfinite]
    rw [stringify]
    change (text d.toText).toNumber.map decimal = _
    rw [hnumber]
    rfl
  | boolean =>
    obtain ⟨b, rfl⟩ := hv
    cases b with
    | true => rfl
    | false => rfl
  | date =>
    obtain ⟨t, rfl⟩ := hv
    have htemporal : (text t.isoText).toTemporal = .ok t.readBack := by
      rw [toTemporal, ofText_isoText]
      rfl
    rw [stringify]
    change (text t.isoText).toTemporal.map temporal = _
    rw [htemporal]
    rfl
  | any => exact absurd rfl ht

/-- **The text of a value is converted back to it.** A value that represents a declared type is a
text, a decimal within the limits of decimals, a truth value, a date or a moment. Its text is always
converted to a value of the type, and it is converted to the value itself, with sign, digits and
exponent, or with microseconds and offset, exactly if the value is not a moment with an offset of
less than a second that is not zero. Such a moment comes back with the offset zero. -/
theorem coerce_stringify_iff (ht : t ≠ .any) (hv : v.OfType t)
    (hlimits : ∀ d, v = .decimal d → d.WithinLimits) :
    ((text v.stringify).coerce t = .ok v ↔ ¬v.SplitsSecond) ∧
      ∀ m, v = .temporal (.moment m) → m.SplitsSecond →
        (text v.stringify).coerce t =
          .ok (.temporal (.moment { m with offset := some ⟨0, by decide⟩ })) := by
  have hcoerce := coerce_stringify ht hv hlimits
  constructor
  · rw [hcoerce, ← v.readBack_eq_self_iff]
    exact ⟨fun h => Except.ok.inj h, fun h => congrArg Except.ok h⟩
  · rintro m rfl ⟨o, hoffset, -, hless⟩
    have hzero : o.readBack = ⟨0, by decide⟩ := if_pos hless
    rw [hcoerce, readBack, Temporal.readBack, Moment.readBack, hoffset, Option.map_some, hzero]

end Value

/-- A decimal with a sign, trailing zeros and an exponent. -/
def minusTwelve : Decimal :=
  .finite true 1200 5

theorem minusTwelve_coerce_stringify_iff :
    DataType.number ≠ .any ∧ (Value.decimal minusTwelve).OfType .number ∧
      (∀ d, Value.decimal minusTwelve = .decimal d → d.WithinLimits) ∧
      ((Value.text (Value.decimal minusTwelve).stringify).coerce .number =
        .ok (.decimal minusTwelve) ↔ ¬(Value.decimal minusTwelve).SplitsSecond) := by
  have hof : (Value.decimal minusTwelve).OfType .number := ⟨_, rfl⟩
  have hlimits : ∀ d, Value.decimal minusTwelve = .decimal d → d.WithinLimits := by
    intro d hd
    obtain rfl := Value.decimal.inj hd
    rfl
  have hany : DataType.number ≠ .any := nofun
  exact ⟨hany, hof, hlimits, (Value.coerce_stringify_iff hany hof hlimits).1⟩

/-- A moment that is one microsecond ahead of universal time. -/
def splitSecond : Moment :=
  { date := ⟨2024, 1, 1, by decide⟩, time := .midnight, offset := some ⟨1, by decide⟩ }

/-- The microsecond of its offset is written, and lost again. -/
theorem splitSecond_not_read_back :
    (Value.temporal (.moment splitSecond)).stringify = "2024-01-01T00:00:00+00:00:00.000001" ∧
      (Value.text (Value.temporal (.moment splitSecond)).stringify).coerce .date ≠
        .ok (.temporal (.moment splitSecond)) := by
  refine ⟨by decide +kernel, fun heq => ?_⟩
  have hany : DataType.date ≠ .any := nofun
  have hof : (Value.temporal (.moment splitSecond)).OfType .date := ⟨_, rfl⟩
  have hcoerce := Value.coerce_stringify hany hof (by simp)
  have hback := Except.ok.inj (hcoerce.symm.trans heq)
  have hkept : ¬splitSecond.SplitsSecond := by
    rw [← Value.splitsSecond_moment_iff]
    exact (Value.readBack_eq_self_iff _).mp hback
  exact hkept ⟨_, rfl, by decide, by decide⟩

end RuleFlow
