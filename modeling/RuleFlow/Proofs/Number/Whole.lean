import Mathlib.Data.Nat.Digits.Defs
import Mathlib.Tactic.Ring
import RuleFlow.Proofs.Ends
import RuleFlow.Value.Whole

/-!
# The whole numbers that digits write

There are two notions of a digit. The wide one takes in superscripts, subscripts and enclosed
digits; the narrow one knows the decimal digits of all scripts, and only these write numbers. So a
text that is made of digits in the wide sense may well write no number.

* `RuleFlow.Number.Denotes` says which number a text writes in decimal digits.
* `RuleFlow.Text.exists_range_of_isDigitLike`: digits in the wide sense stand in known blocks, apart
  from the signs and from white space, so that nothing is trimmed from a text that is made of them.
* `RuleFlow.Value.wholeOfText_eq_ok_iff` is the result: a text of digits is read exactly if it
  writes a number and has not too many digits.
-/

namespace RuleFlow

namespace Text

variable {c : Char} {s : String}

/-! ### Where digits stand -/

/-- A code point that is found in a table stands in one of its ranges. -/
theorem CodeRange.exists_of_memBetween {table : Array CodeRange} {code : Nat} {steps lo hi : Nat}
    (h : memBetween table code steps lo hi = true) :
    ∃ range ∈ table.toList, range.first ≤ code ∧ code ≤ range.last := by
  induction steps generalizing lo hi with
  | zero => exact nomatch h
  | succ steps ih =>
    rw [memBetween] at h
    split_ifs at h
    dsimp only at h
    split at h
    next => exact nomatch h
    next range hrange =>
      split_ifs at h with hlow hhigh
      · exact ih h
      · exact ih h
      · exact ⟨range, Array.mem_def.mp (Array.mem_of_getElem? hrange), by omega, by omega⟩

/-- **The blocks of digits**: those of decimal digits, and those of the digits that form no
numeral. -/
def digitRanges : List CodeRange :=
  zeroCodes.toList.map (fun code => ⟨code, code + 9⟩) ++ loneDigitRanges.toList

/-- **A digit stands in a block of digits.** -/
theorem exists_range_of_isDigitLike (h : isDigitLike c = true) :
    ∃ range ∈ digitRanges, range.first ≤ c.toNat ∧ c.toNat ≤ range.last := by
  rw [isDigitLike, Bool.or_eq_true] at h
  rcases h with hdecimal | hlone
  · obtain ⟨d, hd⟩ := Option.isSome_iff_exists.mp hdecimal
    rw [digitValue?] at hd
    split_ifs at hd with hplain hdigit
    · exact ⟨⟨48, 57⟩, by decide, hdigit⟩
    · obtain ⟨code, hcode, -⟩ := Option.map_eq_some_iff.mp hd
      have hmem := Array.mem_of_find?_eq_some hcode
      have hblock := Array.find?_some hcode
      rw [Bool.and_eq_true, decide_eq_true_iff, decide_eq_true_iff] at hblock
      refine ⟨⟨code, code + 9⟩, List.mem_append_left _ ?_, hblock.1, ?_⟩
      · exact List.mem_map_of_mem (Array.mem_def.mp hmem)
      · exact Nat.le_of_lt_succ hblock.2
  · obtain ⟨range, hmem, hrange⟩ := CodeRange.exists_of_memBetween hlone
    exact ⟨range, List.mem_append_right _ hmem, hrange⟩

/-- The code of a digit in the wide sense: a digit of ASCII, or one far behind. -/
theorem toNat_of_isDigitLike (h : isDigitLike c = true) :
    48 ≤ c.toNat ∧ (c.toNat ≤ 57 ∨ 178 ≤ c.toNat) := by
  have hall : ∀ range ∈ digitRanges, 48 ≤ range.first ∧ (range.last ≤ 57 ∨ 178 ≤ range.first) := by
    decide
  obtain ⟨range, hmem, hfirst, hlast⟩ := exists_range_of_isDigitLike h
  have hrange := hall range hmem
  omega

/-- **Digits are no white space.** -/
theorem isBlank_of_isDigitLike (h : isDigitLike c = true) : isBlank c = false := by
  have hapart : ∀ blank ∈ blankRanges.toList, ∀ range ∈ digitRanges,
      blank.last < range.first ∨ range.last < blank.first := by
    decide
  by_contra hblank
  rw [Bool.not_eq_false] at hblank
  obtain ⟨blank, hblank, hfirst, hlast⟩ := CodeRange.exists_of_memBetween hblank
  obtain ⟨range, hrange, hfirst', hlast'⟩ := exists_range_of_isDigitLike h
  have hdisjoint := hapart blank hblank range hrange
  omega

/-- A text of digits is one in the wide sense of a digit. -/
theorem isDigitString_iff :
    isDigitString s = true ↔ s ≠ "" ∧ ∀ c ∈ s.toList, isDigitLike c = true := by
  simp [isDigitString]

end Text

namespace Number

variable {s : String} {n : Nat} {cs : List Char} {afterDigit : Bool}

open Text (digitValue? isDigitLike isDigitString isDigitString_iff)

/-! ### The numbers that texts write -/

/-- **A text denotes a number**: it is written in decimal digits of whatever scripts, of which the
first has the greatest weight. -/
def Denotes (s : String) (n : Nat) : Prop :=
  ∃ digits : List Nat, digits ≠ [] ∧ s.toList.map digitValue? = digits.map some ∧
    Nat.ofDigits 10 digits.reverse = n

/-- **The texts that denote a number** are those of decimal digits. -/
theorem exists_denotes_iff :
    (∃ n, Denotes s n) ↔ s ≠ "" ∧ ∀ c ∈ s.toList, (digitValue? c).isSome = true := by
  constructor
  · rintro ⟨n, digits, hne, hdigits, -⟩
    refine ⟨?_, fun c hc => ?_⟩
    · rintro rfl
      exact hne (by simpa using hdigits.symm)
    · have hmem : digitValue? c ∈ digits.map some := hdigits ▸ List.mem_map_of_mem hc
      obtain ⟨d, -, hd⟩ := List.mem_map.mp hmem
      rw [← hd]
      rfl
  · rintro ⟨hne, hall⟩
    have hdigits : s.toList.map digitValue? = (s.toList.filterMap digitValue?).map some := by
      rw [List.map_filterMap_some_eq_filter_map_isSome, List.filter_eq_self.mpr]
      simpa using hall
    refine ⟨_, s.toList.filterMap digitValue?, fun hnil => hne ?_, hdigits, rfl⟩
    rw [hnil] at hdigits
    simpa using hdigits

/-- What denotes a number is made of digits. -/
theorem Denotes.isDigitString (h : Denotes s n) : isDigitString s = true := by
  obtain ⟨hne, hall⟩ := exists_denotes_iff.mp ⟨n, h⟩
  exact isDigitString_iff.mpr ⟨hne, fun c hc => by simp [isDigitLike, hall c hc]⟩

/-! ### Reading digits -/

theorem wholeDigits?_of_digits {digits : List Nat} (h : cs.map digitValue? = digits.map some)
    (hdigit : afterDigit = true ∨ cs ≠ []) : wholeDigits? afterDigit n cs =
      some (n * 10 ^ digits.length + Nat.ofDigits 10 digits.reverse) := by
  induction cs generalizing n digits afterDigit with
  | nil =>
    obtain rfl : digits = [] := by simpa using h.symm
    obtain rfl : afterDigit = true := by simpa using hdigit
    simp [wholeDigits?]
  | cons c cs ih =>
    cases digits with
    | nil => exact nomatch h
    | cons d digits =>
      obtain ⟨hc, hcs⟩ := List.cons.inj h
      rw [wholeDigits?, hc]
      dsimp only
      -- What is read so far moves up by one place, as the first digit has the place of all others.
      rw [ih hcs (.inl rfl), List.reverse_cons, Nat.ofDigits_append, Nat.ofDigits_singleton,
        List.length_reverse, List.length_cons]
      congr 1
      ring

/-- A digit that is no decimal one stops the reading. -/
theorem wholeDigits?_eq_none (hline : '_' ∉ cs) (h : ∃ c ∈ cs, digitValue? c = none) :
    wholeDigits? afterDigit n cs = none := by
  induction cs generalizing n afterDigit with
  | nil => simp at h
  | cons c cs ih =>
    obtain ⟨hc, hcs⟩ := List.ne_and_not_mem_of_not_mem_cons hline
    rw [wholeDigits?]
    cases hd : digitValue? c with
    | none => simp [hc.symm]
    | some d => exact ih hcs (by simpa [hd] using h)

theorem leadingDigits_of_digits (h : ∀ c ∈ cs, (digitValue? c).isSome = true)
    (hdigit : afterDigit = true ∨ cs ≠ []) :
    leadingDigits afterDigit n cs = n + cs.length := by
  induction cs generalizing n afterDigit with
  | nil =>
    obtain rfl : afterDigit = true := by simpa using hdigit
    simp [leadingDigits]
  | cons c cs ih =>
    obtain ⟨hc, hcs⟩ := List.forall_mem_cons.mp h
    obtain ⟨d, hd⟩ := Option.isSome_iff_exists.mp hc
    rw [leadingDigits, hd]
    dsimp only
    rw [ih hcs (.inl rfl), List.length_cons]
    omega

/-! ### Texts of digits -/

/-- **Nothing is trimmed** from digits. -/
theorem trimNumeral_of_isDigitLike (h : ∀ c ∈ cs, isDigitLike c = true) : trimNumeral cs = cs := by
  have hplain : ∀ c, isDigitLike c = true → isPlainBlank c = false := by
    intro c hc
    have hcode := Text.toNat_of_isDigitLike hc
    have hspace : c ≠ ' ' := by
      rintro rfl
      exact absurd hc (by decide)
    simp [isPlainBlank, hspace]
    omega
  have hends : ∀ (blank : Char → Bool), (∀ c, isDigitLike c = true → blank c = false) →
      ∀ cs : List Char, (∀ c ∈ cs, isDigitLike c = true) → cs.dropWhile blank = cs := by
    intro blank hblank cs hcs
    cases cs with
    | nil => rfl
    | cons c cs =>
      rw [List.dropWhile_cons_of_neg]
      simp [hblank c (hcs c List.mem_cons_self)]
  -- Whichever characters are trimmed, the ends of the text are digits.
  have hreverse : ∀ c ∈ cs.reverse, isDigitLike c = true := fun c hc => h c (List.mem_reverse.mp hc)
  have htrim : ∀ blank : Char → Bool, (∀ c, isDigitLike c = true → blank c = false) →
      ((cs.dropWhile blank).reverse.dropWhile blank).reverse = cs := by
    intro blank hblank
    rw [hends blank hblank cs h, hends blank hblank cs.reverse hreverse, List.reverse_reverse]
  rw [trimNumeral]
  split_ifs
  · exact htrim isPlainBlank hplain
  · exact htrim Text.isBlank fun c => Text.isBlank_of_isDigitLike

/-- A text of digits has no sign. -/
theorem readWhole?_of_isDigitString (h : isDigitString s = true) :
    readWhole? s = (wholeDigits? false 0 s.toList).map Int.ofNat ∧
      numeralDigits s = leadingDigits false 0 s.toList := by
  obtain ⟨-, hall⟩ := isDigitString_iff.mp h
  rw [readWhole?, numeralDigits, trimNumeral_of_isDigitLike hall]
  cases hcs : s.toList with
  | nil => exact ⟨rfl, rfl⟩
  | cons c cs =>
    have hc : isDigitLike c = true := hall c (by simp [hcs])
    constructor
    · split
      next heq => exact absurd ((List.cons.inj heq).1 ▸ hc) (by decide)
      next heq => exact absurd ((List.cons.inj heq).1 ▸ hc) (by decide)
      next => rfl
    · split
      next heq => exact absurd ((List.cons.inj heq).1 ▸ hc) (by decide)
      next heq => exact absurd ((List.cons.inj heq).1 ▸ hc) (by decide)
      next => rfl

/-- **A text that denotes a number is read as that number**, and all of it counts as digits. -/
theorem Denotes.readWhole? (h : Denotes s n) :
    readWhole? s = some (n : Int) ∧ numeralDigits s = s.length := by
  obtain ⟨hread, hcount⟩ := readWhole?_of_isDigitString h.isDigitString
  obtain ⟨hne, hall⟩ := exists_denotes_iff.mp ⟨n, h⟩
  have hcs : s.toList ≠ [] := by simpa using hne
  obtain ⟨digits, -, hdigits, rfl⟩ := h
  rw [hread, hcount, wholeDigits?_of_digits hdigits (.inr hcs),
    leadingDigits_of_digits hall (.inr hcs), String.length_toList]
  simp

/-- A text denotes no more than one number. -/
theorem Denotes.unique {m : Nat} (h : Denotes s n) (h' : Denotes s m) : n = m :=
  Int.ofNat.inj (Option.some.inj (h.readWhole?.1.symm.trans h'.readWhole?.1))

/-- **Digits that denote no number** are not read. -/
theorem readWhole?_eq_none (h : isDigitString s = true) (hno : ¬∃ n, Denotes s n) :
    readWhole? s = none := by
  obtain ⟨hne, hall⟩ := isDigitString_iff.mp h
  have hline : '_' ∉ s.toList := fun hmem => absurd (hall _ hmem) (by decide)
  have hstops : ∃ c ∈ s.toList, digitValue? c = none := by
    rw [exists_denotes_iff, not_and, not_forall] at hno
    obtain ⟨c, hc⟩ := hno hne
    rw [Classical.not_imp, Bool.not_eq_true, Option.isSome_eq_false_iff, Option.isNone_iff_eq_none]
      at hc
    exact ⟨c, hc⟩
  rw [(readWhole?_of_isDigitString h).1, wholeDigits?_eq_none hline hstops]
  rfl

end Number

namespace Value

open Number

/-- **A text of digits is read** exactly if it denotes a number and is not too long. -/
theorem wholeOfText_eq_ok_iff {s : String} (h : Text.isDigitString s = true) {k : Int} :
    wholeOfText s = .ok k ↔ s.length ≤ mostDigits ∧ ∃ n : Nat, Denotes s n ∧ k = n := by
  rw [wholeOfText]
  by_cases hdenotes : ∃ n, Denotes s n
  · obtain ⟨n, hn⟩ := hdenotes
    obtain ⟨hread, hcount⟩ := hn.readWhole?
    have hvalue : (∃ m : Nat, Denotes s m ∧ k = m) ↔ k = n := by
      refine ⟨?_, fun hk => ⟨n, hn, hk⟩⟩
      rintro ⟨m, hm, rfl⟩
      rw [hm.unique hn]
    rw [hvalue, hread, hcount]
    split_ifs with hlong
    · simp [hlong]
    · simp [Nat.le_of_not_lt hlong, eq_comm]
  · have hnone : ¬∃ m : Nat, Denotes s m ∧ k = m := fun ⟨m, hm, _⟩ => hdenotes ⟨m, hm⟩
    rw [readWhole?_eq_none h hdenotes]
    split_ifs
    · simp [hnone]
    · simp [hnone]

/-- What is not read as a whole number is a fault of the value. -/
theorem ends_wholeOfText (s : String) :
    Ends (wholeOfText s) (fun _ => True) (fun f => f.className = "ValueError") := by
  rw [wholeOfText]
  split_ifs
  · rfl
  · split
    · trivial
    · rfl

end Value

end RuleFlow
