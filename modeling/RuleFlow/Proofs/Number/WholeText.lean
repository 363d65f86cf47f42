import RuleFlow.Proofs.Number.DecimalText

/-!
# The text of whole numbers and of doubles

A whole number is written as the digits of its magnitude, with a sign in front if it is negative. A
double has a point or an exponent in its text, which tells it from every whole number.

* `RuleFlow.Number.toList_toString` gives the characters, and
  `RuleFlow.Number.isWholeChar_of_mem_toString` what they are.
* `RuleFlow.Number.eq_of_toString`: the text tells the number.
* `RuleFlow.Number.Binary64.toChars_finite_chars` gives the characters of a double.
-/

namespace RuleFlow.Number

/-- A character of a whole number. -/
def IsWholeChar (c : Char) : Prop :=
  c.isDigit = true ∨ c = '-'

instance (c : Char) : Decidable (IsWholeChar c) :=
  inferInstanceAs (Decidable (c.isDigit = true ∨ c = '-'))

/-- **The text of a whole number**: a sign if it is negative, and the digits of its magnitude. -/
theorem toList_toString (n : Int) :
    (toString n).toList = Decimal.signChars (decide (n < 0)) ++ digitChars n.natAbs := by
  cases n with
  | ofNat m =>
    change m.repr.toList = _
    rw [Nat.repr_eq_ofList_toDigits, String.toList_ofList]
    rfl
  | negSucc m =>
    change ("-" ++ (m + 1).repr).toList = _
    rw [Nat.repr_eq_ofList_toDigits, String.toList_append, String.toList_ofList,
      String.toList_ofList, decide_eq_true (Int.negSucc_lt_zero m)]
    rfl

theorem toString_ne_nil (n : Int) : (toString n).toList ≠ [] := by
  rw [toList_toString]
  exact List.append_ne_nil_of_right_ne_nil _ Nat.toDigits_ne_nil

theorem isWholeChar_of_mem_toString {n : Int} {c : Char} (h : c ∈ (toString n).toList) :
    IsWholeChar c := by
  rw [toList_toString] at h
  rcases List.mem_append.mp h with h | h
  · rw [Decimal.signChars] at h
    split_ifs at h
    · exact .inr (List.mem_singleton.mp h)
    · exact absurd h List.not_mem_nil
  · exact .inl (isDigit_of_mem_digitChars h)

theorem digitChars_injective : Function.Injective digitChars := by
  intro m n h
  have hvalue := congrArg Decimal.digitsValue h
  rwa [Decimal.digitsValue_digitChars, Decimal.digitsValue_digitChars] at hvalue

/-- **The text of a whole number tells the number.** -/
theorem eq_of_toString {m n : Int} (h : (toString m).toList = (toString n).toList) : m = n := by
  have hhead : ∀ k, (digitChars k).head? ≠ some '-' := by
    intro k hminus
    have hdigit := isDigit_of_mem_digitChars (List.mem_of_mem_head? hminus)
    exact absurd hdigit (by decide)
  rw [toList_toString, toList_toString] at h
  obtain ⟨hsign, hdigits⟩ := Decimal.eq_of_signChars_append (hhead _) (hhead _) h
  have hsize := digitChars_injective hdigits
  rw [decide_eq_decide] at hsign
  omega

/-! ### The text of doubles -/

/-- A character of the text of a finite double. -/
def IsNumeralChar (c : Char) : Prop :=
  IsWholeChar c ∨ c = '.' ∨ c = 'e' ∨ c = '+'

theorem isNumeralChar_of_mem_pointed {digits : List Char} {places : Nat} {c : Char}
    (hdigits : ∀ c ∈ digits, c.isDigit = true) (h : c ∈ Decimal.pointed digits places) :
    IsNumeralChar c := by
  rcases Decimal.isDigit_or_point_of_mem_pointed hdigits h with hdigit | rfl
  · exact .inl (.inl hdigit)
  · exact .inr (.inl rfl)

theorem point_mem_pointed (digits : List Char) {places : Nat} (h : places ≠ 0) :
    '.' ∈ Decimal.pointed digits places := by
  rw [Decimal.pointed, if_neg h]
  dsimp only
  split_ifs <;> simp

/-- **The text of a magnitude** is made of the characters of numerals, and holds a point or the mark
of an exponent. -/
theorem magnitudeChars_chars (style : Binary64.Style) (digits : Nat) (unit : Int) :
    (∀ c ∈ Binary64.magnitudeChars style digits unit, IsNumeralChar c) ∧
      ∃ c ∈ Binary64.magnitudeChars style digits unit, c = '.' ∨ c = 'e' := by
  have hdigit : ∀ {c n}, c ∈ digitChars n → IsNumeralChar c := fun h =>
    .inl (.inl (isDigit_of_mem_digitChars h))
  simp only [Binary64.magnitudeChars]
  split
  next =>
    split_ifs with hunit
    · refine ⟨fun c hc => isNumeralChar_of_mem_pointed (fun _ => isDigit_of_mem_digitChars) hc, ?_⟩
      exact ⟨'.', point_mem_pointed _ (by omega), .inl rfl⟩
    · refine ⟨fun c hc => ?_, '.', by simp, .inl rfl⟩
      simp only [List.mem_append, List.mem_replicate, List.mem_cons, List.not_mem_nil,
        or_false] at hc
      rcases hc with (hc | ⟨-, rfl⟩) | rfl | rfl
      · exact hdigit hc
      · exact .inl (.inl rfl)
      · exact .inr (.inl rfl)
      · exact .inl (.inl rfl)
  next =>
    refine ⟨fun c hc => ?_, 'e', by simp, .inr rfl⟩
    simp only [List.mem_append, List.mem_cons, paddedDigits, List.mem_replicate] at hc
    rcases hc with (hc | hc) | rfl | hsign | ⟨-, rfl⟩ | hc
    · exact hdigit (List.mem_of_mem_take hc)
    · split_ifs at hc with hone
      · exact absurd hc List.not_mem_nil
      · rcases List.mem_cons.mp hc with rfl | hc
        · exact .inr (.inl rfl)
        · exact hdigit (List.mem_of_mem_drop hc)
    · exact .inr (.inr (.inl rfl))
    · split_ifs at hsign
      · exact .inl (.inr hsign)
      · exact .inr (.inr (.inr hsign))
    · exact .inl (.inl rfl)
    · exact hdigit hc

/-- **The text of a finite double** is made of the characters of numerals, and holds a point or the
mark of an exponent. -/
theorem Binary64.toChars_finite_chars (x : Binary64.Finite) :
    (∀ c ∈ (Binary64.finite x).toChars, IsNumeralChar c) ∧
      ∃ c ∈ (Binary64.finite x).toChars, c = '.' ∨ c = 'e' := by
  have hmagnitude : ∃ digits unit, (Binary64.finite x).toChars =
      Decimal.signChars x.negative ++ Binary64.magnitudeChars Binary64.plainStyle digits unit :=
    ⟨_, _, rfl⟩
  obtain ⟨digits, unit, heq⟩ := hmagnitude
  obtain ⟨hchars, c, hc, hpoint⟩ := magnitudeChars_chars Binary64.plainStyle digits unit
  have hsign : ∀ c ∈ Decimal.signChars x.negative, c = '-' := by
    cases x.negative <;> simp [Decimal.signChars]
  rw [heq]
  refine ⟨fun c hc => ?_, c, List.mem_append_right _ hc, hpoint⟩
  rcases List.mem_append.mp hc with hc | hc
  · exact .inl (.inr (hsign c hc))
  · exact hchars c hc

end RuleFlow.Number
