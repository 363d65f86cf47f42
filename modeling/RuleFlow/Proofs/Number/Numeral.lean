import RuleFlow.Number.Binary64.Text
import RuleFlow.Proofs.Ends

/-!
# The numerals of doubles

A double becomes a decimal through its text, and a text may also name an infinity or a NaN. This
file shows that nothing is confused: the text of a number begins with a digit, a sign aside, and
what begins so is never read as a name.

* `RuleFlow.Number.Decimal.isFinite_of_ofChars?` is the law of reading.
* `RuleFlow.Number.Binary64.isFinite_toShortDecimal_iff`: the doubles whose decimal is a number
  are the numbers among the doubles.
-/

namespace RuleFlow.Number

/-! ### Texts that begin with a digit -/

/-- **A text that begins with a digit.** -/
def StartsWithDigit (cs : List Char) : Prop :=
  ∃ c rest, cs = c :: rest ∧ c.isDigit = true

theorem StartsWithDigit.append {cs : List Char} (h : StartsWithDigit cs) (more : List Char) :
    StartsWithDigit (cs ++ more) := by
  obtain ⟨c, rest, rfl, hc⟩ := h
  exact ⟨c, rest ++ more, rfl, hc⟩

theorem StartsWithDigit.take {cs : List Char} (h : StartsWithDigit cs) {n : Nat} (hn : 0 < n) :
    StartsWithDigit (cs.take n) := by
  obtain ⟨c, rest, rfl, hc⟩ := h
  cases n with
  | zero => exact absurd hn (Nat.lt_irrefl 0)
  | succ n => exact ⟨c, rest.take n, rfl, hc⟩

theorem isDigit_of_mem_digitChars {n : Nat} {c : Char} (h : c ∈ digitChars n) :
    c.isDigit = true :=
  Nat.isDigit_of_mem_toDigits (by decide) (by decide) h

theorem startsWithDigit_digitChars (n : Nat) : StartsWithDigit (digitChars n) := by
  cases hdigits : digitChars n with
  | nil => exact absurd hdigits Nat.toDigits_ne_nil
  | cons c rest =>
    have hc : c ∈ digitChars n := hdigits ▸ List.mem_cons_self
    exact ⟨c, rest, rfl, isDigit_of_mem_digitChars hc⟩

/-- A point leaves a digit in front. -/
theorem Decimal.startsWithDigit_pointed {digits : List Char} (h : StartsWithDigit digits)
    (places : Nat) : StartsWithDigit (Decimal.pointed digits places) := by
  rw [pointed]
  split_ifs with hplaces
  · exact h
  · dsimp only
    split_ifs with hwhole
    · exact ⟨'0', _, rfl, rfl⟩
    · exact (h.take (Nat.pos_of_ne_zero hwhole)).append _

/-- Nothing but digits and a point stands in pointed digits. -/
theorem Decimal.isDigit_or_point_of_mem_pointed {digits : List Char} {places : Nat} {c : Char}
    (hdigits : ∀ c ∈ digits, c.isDigit = true) (h : c ∈ Decimal.pointed digits places) :
    c.isDigit = true ∨ c = '.' := by
  rw [pointed] at h
  split_ifs at h with hplaces
  · exact .inl (hdigits c h)
  · dsimp only at h
    split_ifs at h with hwhole
    · simp only [List.mem_cons, List.mem_append, List.mem_replicate] at h
      rcases h with rfl | rfl | ⟨-, rfl⟩ | h
      · exact .inl rfl
      · exact .inr rfl
      · exact .inl rfl
      · exact .inl (hdigits c h)
    · rcases List.mem_append.mp h with h | h
      · exact .inl (hdigits c (List.mem_of_mem_take h))
      · rcases List.mem_cons.mp h with rfl | h
        · exact .inr rfl
        · exact .inl (hdigits c (List.mem_of_mem_drop h))

namespace Binary64

theorem startsWithDigit_magnitudeChars (style : Style) (digits : Nat) (unit : Int) :
    StartsWithDigit (magnitudeChars style digits unit) := by
  have hdigits := startsWithDigit_digitChars digits
  simp only [magnitudeChars]
  by_cases hplain : style.leastPositional ≤ unit + (digitChars digits).length - 1 ∧
      unit + (digitChars digits).length - 1 < style.scientificFrom
  · rw [if_pos hplain]
    split_ifs
    · exact Decimal.startsWithDigit_pointed hdigits _
    · exact (hdigits.append _).append _
  · rw [if_neg hplain]
    exact ((hdigits.take Nat.one_pos).append _).append _

/-- **The text of a number** begins with a digit, a sign aside. -/
theorem exists_toChars_finite (x : Finite) :
    ∃ body, (finite x).toChars = Decimal.signChars x.negative ++ body ∧ StartsWithDigit body :=
  ⟨_, rfl, startsWithDigit_magnitudeChars _ _ _⟩

end Binary64

/-! ### Reading such texts -/

/-- Nothing is dropped from characters of which the first is not blank. -/
theorem dropWhile_isBlank_eq_self {cs : List Char}
    (h : ∀ c ∈ cs.head?, Text.isBlank c = false) : cs.dropWhile Text.isBlank = cs := by
  cases cs with
  | nil => rfl
  | cons c cs => exact List.dropWhile_cons_of_neg (by simp [h c rfl])

/-- **Characters that are not blank** are left by trimming. -/
theorem trimChars_eq_self {cs : List Char} (h : ∀ c ∈ cs, Text.isBlank c = false) :
    Text.trimChars cs = cs := by
  have hfront : cs.dropWhile Text.isBlank = cs :=
    dropWhile_isBlank_eq_self fun c hc => h c (List.mem_of_mem_head? hc)
  have hback : cs.reverse.dropWhile Text.isBlank = cs.reverse :=
    dropWhile_isBlank_eq_self fun c hc => h c (List.mem_reverse.mp (List.mem_of_mem_head? hc))
  rw [Text.trimChars, hfront, hback, List.reverse_reverse]

/-- Characters that are not blank stay in front when blanks at the ends are dropped. -/
theorem exists_trimChars_append {kept : List Char} (hne : kept ≠ [])
    (hkept : ∀ c ∈ kept, Text.isBlank c = false) (rest : List Char) :
    ∃ rest', Text.trimChars (kept ++ rest) = kept ++ rest' := by
  have hfront : (kept ++ rest).dropWhile Text.isBlank = kept ++ rest := by
    refine dropWhile_isBlank_eq_self fun c hc => hkept c (List.mem_of_mem_head? ?_)
    rwa [List.head?_append_of_ne_nil _ hne] at hc
  have hback : kept.reverse.dropWhile Text.isBlank = kept.reverse :=
    dropWhile_isBlank_eq_self fun c hc => hkept c (List.mem_reverse.mp (List.mem_of_mem_head? hc))
  rw [Text.trimChars, hfront, List.reverse_append, List.dropWhile_append, hback]
  -- Either all of the rest is blank, or the kept characters are not reached from behind.
  split_ifs
  · exact ⟨[], by simp⟩
  · exact ⟨((rest.reverse).dropWhile Text.isBlank).reverse, by simp⟩

/-- The code of a digit. -/
theorem toNat_of_isDigit {c : Char} (h : c.isDigit = true) : 48 ≤ c.toNat ∧ c.toNat ≤ 57 := by
  simpa [Char.isDigit, UInt32.le_iff_toNat_le] using h

theorem isBlank_of_isDigit {c : Char} (h : c.isDigit = true) : Text.isBlank c = false := by
  have hall : ∀ n, n < 58 → 48 ≤ n → Text.CodeRange.mem Text.blankRanges n = false := by decide
  obtain ⟨hlow, hhigh⟩ := toNat_of_isDigit h
  exact hall c.toNat (by omega) hlow

namespace Decimal

/-- A digit of a numeral is read as it stands. -/
theorem digit_of_isDigit {c : Char} (h : c.isDigit = true) :
    (if c = '_' then none
      else match Text.digitValue? c with
        | some d => some (Char.ofNat (48 + d))
        | none => some c) = some c := by
  obtain ⟨hlow, hhigh⟩ := toNat_of_isDigit h
  have hline : c ≠ '_' := by
    rintro rfl
    exact absurd h (by decide)
  rw [if_neg hline, Text.digitValue?, if_pos (by omega), if_pos ⟨hlow, hhigh⟩]
  dsimp only
  rw [Nat.add_sub_cancel' hlow, Char.ofNat_toNat]

theorem numeralChars_append_of_digit {c : Char} (hc : c.isDigit = true) (negative : Bool)
    (rest : List Char) :
    ∃ rest', numeralChars (signChars negative ++ c :: rest) =
      signChars negative ++ c :: rest' := by
  have hkept : ∀ k ∈ signChars negative ++ [c], Text.isBlank k = false := by
    refine forall_mem_snoc.mpr ⟨fun k hk => ?_, isBlank_of_isDigit hc⟩
    cases negative with
    | false => exact absurd hk List.not_mem_nil
    | true =>
      obtain rfl : k = '-' := by simpa [signChars] using hk
      decide
  obtain ⟨rest', hrest⟩ := exists_trimChars_append (by simp) hkept rest
  rw [List.append_assoc, List.append_assoc, List.singleton_append, List.singleton_append] at hrest
  rw [numeralChars, hrest, List.filterMap_append]
  refine ⟨_, congrArg₂ (· ++ ·) ?_ (List.filterMap_cons_some (digit_of_isDigit hc))⟩
  cases negative with
  | false => rfl
  | true => rfl

/-- A text that begins with a digit names no special value. -/
theorem special?_eq_none {cs : List Char} (h : StartsWithDigit cs) (negative : Bool) :
    special? negative cs = none := by
  obtain ⟨c, rest, rfl, hc⟩ := h
  obtain ⟨hlow, hhigh⟩ := toNat_of_isDigit hc
  have hplain : plainLower c = c := by
    rw [plainLower, if_neg (by omega)]
  have hne : ∀ letter : Char, 97 ≤ letter.toNat → c ≠ letter := by
    rintro letter hletter rfl
    omega
  have hi := hne 'i' (by decide)
  have hs := hne 's' (by decide)
  have hn := hne 'n' (by decide)
  simp [special?, hplain, hi, hs, hn]

theorem isFinite_of_magnitude? {negative : Bool} {cs : List Char} {d : Decimal}
    (h : magnitude? negative cs = some d) : d.isFinite = true := by
  simp only [magnitude?] at h
  split_ifs at h
  obtain ⟨e, -, hbounded⟩ := Option.bind_eq_some_iff.mp h
  simp only [bounded?] at hbounded
  split_ifs at hbounded
  all_goals exact Option.some.inj hbounded ▸ rfl

/-- A sign in front of digits is taken off. -/
theorem ofChars?_of_numeralChars {cs body : List Char} {negative : Bool}
    (h : numeralChars cs = signChars negative ++ body) (hbody : StartsWithDigit body) :
    ofChars? cs = (magnitude? negative body).or (special? negative body) := by
  obtain ⟨c, rest, rfl, hc⟩ := hbody
  have hminus : c ≠ '-' := by
    rintro rfl
    exact absurd hc (by decide)
  have hplus : c ≠ '+' := by
    rintro rfl
    exact absurd hc (by decide)
  rw [ofChars?, h]
  split
  next negative' body hsign =>
    obtain ⟨rfl, rfl⟩ : negative = negative' ∧ c :: rest = body := by
      cases negative with
      | true => exact Prod.mk.inj hsign
      | false => simpa [signChars, hminus, hplus] using hsign
    cases magnitude? negative (c :: rest) with
    | some d => rfl
    | none => rfl

/-- **What begins with a digit is read as a number**, if it is read at all. -/
theorem isFinite_of_ofChars? {negative : Bool} {body : List Char} (h : StartsWithDigit body)
    {d : Decimal} (hd : ofChars? (signChars negative ++ body) = some d) : d.isFinite = true := by
  obtain ⟨c, rest, rfl, hc⟩ := h
  obtain ⟨rest', hrest⟩ := numeralChars_append_of_digit hc negative rest
  have hdigit : StartsWithDigit (c :: rest') := ⟨c, rest', rfl, hc⟩
  rw [ofChars?_of_numeralChars hrest hdigit, special?_eq_none hdigit, Option.or_none] at hd
  exact isFinite_of_magnitude? hd

end Decimal

/-- **The decimal of a double** is a number if the double is one, and otherwise not. -/
theorem Binary64.isFinite_toShortDecimal_iff (x : Binary64) :
    x.toShortDecimal.isFinite = true ↔ ∃ y, x = .finite y := by
  cases x with
  | finite y =>
    obtain ⟨body, hbody, hdigit⟩ := exists_toChars_finite y
    refine ⟨fun _ => ⟨y, rfl⟩, fun _ => ?_⟩
    rw [toShortDecimal, hbody]
    cases hd : Decimal.ofChars? (Decimal.signChars y.negative ++ body) with
    | none => rfl
    | some d => exact Decimal.isFinite_of_ofChars? hdigit hd
  | infinite negative => cases negative <;> simp <;> decide
  | nan which =>
    have htext : (nan which).toShortDecimal = (Decimal.ofChars? "nan".toList).getD .zero := rfl
    rw [htext]
    simp
    decide

end RuleFlow.Number
