import Mathlib.Algebra.Group.Nat.Defs
import RuleFlow.Proofs.Number.Numeral

/-!
# The text of decimals is read back

The text of a decimal keeps more than its value: coefficient, exponent and sign can be read off it.
Where it has a point, the digits behind the point give the exponent; in scientific form, the mark
of the exponent tells where the point would stand.

* `RuleFlow.Number.Decimal.parts?` is reading without the limits of decimals.
  `RuleFlow.Number.Decimal.parts?_whole` and `RuleFlow.Number.Decimal.parts?_fraction` say what it
  makes of digits, a point and an exponent, one part after the other.
* `RuleFlow.Number.Decimal.parts?_pointed` and `RuleFlow.Number.Decimal.parts?_scientific` are the
  two forms of a text.
* `RuleFlow.Number.Decimal.ofText?_toText` is the result, for the decimals within the limits that
  all decimals have (`RuleFlow.Number.Decimal.WithinLimits`), and
  `RuleFlow.Number.Decimal.toChars_injective` a consequence for all of them.
-/

namespace RuleFlow.Number

/-! ### The number that digits write -/

namespace Decimal

theorem digitsValue_eq_ofDigitChars (cs : List Char) :
    digitsValue cs = Nat.ofDigitChars 10 cs 0 := by
  have hstep : (fun n (c : Char) => n * 10 + (c.toNat - 48)) =
      fun n (c : Char) => 10 * n + (c.toNat - 48) := by
    funext n c
    rw [Nat.mul_comm]
  rw [digitsValue, hstep]
  rfl

/-- **The digits of a number** write it. -/
theorem digitsValue_digitChars (n : Nat) : digitsValue (digitChars n) = n := by
  rw [digitsValue_eq_ofDigitChars]
  exact Nat.ofDigitChars_ten_toDigits

/-- Zeros in front count for nothing. -/
theorem digitsValue_zeros_append (zeros : Nat) (cs : List Char) :
    digitsValue (List.replicate zeros '0' ++ cs) = digitsValue cs := by
  induction zeros with
  | zero => rfl
  | succ zeros ih => exact ih

end Decimal

theorem isDigit_of_mem_replicate {zeros : Nat} {c : Char} (h : c ∈ List.replicate zeros '0') :
    c.isDigit = true := by
  obtain rfl := List.eq_of_mem_replicate h
  rfl

theorem isDigit_of_mem_paddedDigits {width n : Nat} {c : Char} (h : c ∈ paddedDigits width n) :
    c.isDigit = true := by
  rcases List.mem_append.mp h with h | h
  · exact isDigit_of_mem_replicate h
  · exact isDigit_of_mem_digitChars h

theorem length_digitChars_le {width n : Nat} (hwidth : 0 < width) (h : n < tenPow width) :
    (digitChars n).length ≤ width :=
  (Nat.length_toDigits_le_iff (by decide) hwidth).mpr h

/-- A number that fits a width fills it, with the zeros in front. -/
theorem length_paddedDigits {width n : Nat} (hwidth : 0 < width) (h : n < 10 ^ width) :
    (paddedDigits width n).length = width := by
  have hle := length_digitChars_le hwidth h
  have hlength : (paddedDigits width n).length =
      width - (digitChars n).length + (digitChars n).length := by
    simp [paddedDigits]
  omega

theorem digitsValue_paddedDigits (width n : Nat) :
    Decimal.digitsValue (paddedDigits width n) = n :=
  (Decimal.digitsValue_zeros_append ..).trans (Decimal.digitsValue_digitChars n)

namespace Decimal

variable {negative : Bool} {whole fraction tail cs : List Char} {coefficient : Nat}
  {exponent : Int}

/-! ### The characters of a text -/

/-- **A character of the text of a number**: a digit, a sign, the point, or a mark of the
exponent. -/
def IsWritten (c : Char) : Prop :=
  c.isDigit = true ∨ c ∈ ['+', '-', '.', 'E', 'e']

theorem isBlank_of_isWritten {c : Char} (h : IsWritten c) : Text.isBlank c = false := by
  rcases h with hdigit | hmark
  · exact isBlank_of_isDigit hdigit
  · simp only [List.mem_cons, List.not_mem_nil, or_false] at hmark
    rcases hmark with rfl | rfl | rfl | rfl | rfl <;> decide

/-- **Reading takes such characters as they stand.** -/
theorem numeralChars_eq_self (h : ∀ c ∈ cs, IsWritten c) : numeralChars cs = cs := by
  rw [numeralChars, trimChars_eq_self fun c hc => isBlank_of_isWritten (h c hc)]
  refine (List.filterMap_congr fun c hc => ?_).trans List.filterMap_some
  rcases h c hc with hdigit | hmark
  · exact digit_of_isDigit hdigit
  · have hother : c ≠ '_' ∧ Text.digitValue? c = none := by
      simp only [List.mem_cons, List.not_mem_nil, or_false] at hmark
      rcases hmark with rfl | rfl | rfl | rfl | rfl <;> decide
    rw [if_neg hother.1, hother.2]

/-! ### Reading part by part -/

/-- **Digits stop** at a tail that begins neither with a digit nor with a point. -/
def StopsDigits (tail : List Char) : Prop :=
  ∀ c ∈ tail.head?, c.isDigit = false ∧ c ≠ '.'

/-- Digits are taken up to where they stop. -/
theorem span_digits (hdigits : ∀ c ∈ cs, c.isDigit = true)
    (htail : ∀ c ∈ tail.head?, c.isDigit = false) :
    (cs ++ tail).takeWhile Char.isDigit = cs ∧ (cs ++ tail).dropWhile Char.isDigit = tail := by
  rw [List.takeWhile_append_of_pos hdigits, List.dropWhile_append_of_pos hdigits]
  cases tail with
  | nil => simp
  | cons c tail => simp [htail c rfl]

/-- The digits behind a point, if there is one, and what follows them. -/
def behindPoint (rest : List Char) : List Char × List Char :=
  if rest.head? = some '.' then
    (rest.tail.takeWhile Char.isDigit, rest.tail.dropWhile Char.isDigit)
  else ([], rest)

/-- **The coefficient and the exponent** that a numeral without its sign writes, within the limits
of decimals or not. -/
def parts? (cs : List Char) : Option (Nat × Int) :=
  let whole := cs.takeWhile Char.isDigit
  let fraction := (behindPoint (cs.dropWhile Char.isDigit)).1
  let tail := (behindPoint (cs.dropWhile Char.isDigit)).2
  if whole.isEmpty && fraction.isEmpty then none
  else (exponent? tail).map fun e : Int => (digitsValue (whole ++ fraction), e - fraction.length)

/-- A numeral is read as its parts, if they are within the limits. -/
theorem magnitude?_eq (negative : Bool) (cs : List Char) :
    magnitude? negative cs = (parts? cs).bind fun p => bounded? negative p.1 p.2 := by
  have hif : ∀ (b : Bool) (o : Option (Nat × Int)) (f : Nat × Int → Option Decimal),
      (if b then none else o).bind f = if b then none else o.bind f := by
    intro b o f
    cases b <;> rfl
  rw [magnitude?, parts?]
  dsimp only
  rw [hif, Option.bind_map]
  generalize cs.dropWhile Char.isDigit = rest
  split
  next => rfl
  next hother =>
    have hpoint : rest.head? ≠ some '.' := by
      intro hhead
      obtain ⟨more, hmore⟩ := List.head?_eq_some_iff.mp hhead
      exact hother more hmore
    rw [behindPoint, if_neg hpoint]
    rfl

/-- A number without a point. -/
theorem parts?_whole (hne : whole ≠ []) (hwhole : ∀ c ∈ whole, c.isDigit = true)
    (htail : StopsDigits tail) :
    parts? (whole ++ tail) = (exponent? tail).map fun e => (digitsValue whole, e) := by
  obtain ⟨htake, hdrop⟩ := span_digits hwhole fun c hc => (htail c hc).1
  have hsome : whole.isEmpty = false := by simpa using hne
  rw [parts?, htake, hdrop]
  cases tail with
  | nil => simp [behindPoint, hsome]
  | cons c tail =>
    have hpoint : c ≠ '.' := (htail c rfl).2
    simp [behindPoint, hsome, hpoint]

/-- A number with a point: the digits behind it lower the exponent. -/
theorem parts?_fraction (hne : whole ≠ []) (hwhole : ∀ c ∈ whole, c.isDigit = true)
    (hfraction : ∀ c ∈ fraction, c.isDigit = true) (htail : StopsDigits tail) :
    parts? (whole ++ '.' :: (fraction ++ tail)) =
      (exponent? tail).map fun e : Int => (digitsValue (whole ++ fraction), e - fraction.length) := by
  have hpoint : ∀ c ∈ ('.' :: (fraction ++ tail)).head?, c.isDigit = false := by
    intro c hc
    obtain rfl := Option.mem_some_iff.mp hc
    rfl
  obtain ⟨htake, hdrop⟩ := span_digits hwhole hpoint
  obtain ⟨htake', hdrop'⟩ := span_digits hfraction fun c hc => (htail c hc).1
  have hsome : whole.isEmpty = false := by simpa using hne
  rw [parts?, htake, hdrop]
  simp [behindPoint, hsome, htake', hdrop']

theorem magnitude?_fraction (negative : Bool) (hne : whole ≠ [])
    (hwhole : ∀ c ∈ whole, c.isDigit = true) (hfraction : ∀ c ∈ fraction, c.isDigit = true)
    (htail : StopsDigits tail) :
    magnitude? negative (whole ++ '.' :: (fraction ++ tail)) =
      (exponent? tail).bind fun e =>
        bounded? negative (digitsValue (whole ++ fraction)) (e - fraction.length) := by
  rw [magnitude?_eq, parts?_fraction hne hwhole hfraction htail, Option.bind_map]
  rfl

/-- **An exponent is read** from its sign and its digits, after a mark in either case. -/
theorem exponent?_of_digits {mark : Char} (hmark : plainLower mark = 'e') {digits : List Char}
    (hne : digits ≠ []) (hdigits : ∀ c ∈ digits, c.isDigit = true)
    (hvalue : digitsValue digits = exponent.natAbs) :
    exponent? (mark :: (if exponent < 0 then '-' else '+') :: digits) = some exponent := by
  have hall : digits.all Char.isDigit = true := List.all_eq_true.mpr hdigits
  have hsome : digits.isEmpty = false := List.isEmpty_eq_false_iff.mpr hne
  by_cases hneg : exponent < 0
  · have hsigned : signed true exponent.natAbs = exponent := by
      simp only [signed, if_true]
      omega
    simp [exponent?, hneg, hmark, hall, hsome, hvalue, hsigned]
  · have hsigned : signed false exponent.natAbs = exponent := by
      simp only [signed, Bool.false_eq_true, if_false]
      omega
    simp [exponent?, hneg, hmark, hall, hsome, hvalue, hsigned]

/-- **An exponent is read back.** -/
theorem exponent?_exponentChars (e : Int) : exponent? ('E' :: exponentChars e) = some e :=
  exponent?_of_digits (by decide) Nat.toDigits_ne_nil (fun _ hc => isDigit_of_mem_digitChars hc)
    (digitsValue_digitChars _)

/-! ### The two forms -/

theorem stopsDigits_nil : StopsDigits [] := by
  simp [StopsDigits]

/-- **Pointed digits** are some digits, and behind a point as many as were pointed off. Zeros that
fill up the places count for nothing. -/
theorem exists_pointed_eq (coefficient places : Nat) :
    ∃ whole fraction, pointed (digitChars coefficient) places =
        whole ++ (if places = 0 then [] else '.' :: fraction) ∧
      whole ≠ [] ∧ (∀ c ∈ whole, c.isDigit = true) ∧ (∀ c ∈ fraction, c.isDigit = true) ∧
      fraction.length = places ∧ digitsValue (whole ++ fraction) = coefficient := by
  have hdigits : ∀ c ∈ digitChars coefficient, c.isDigit = true :=
    fun c hc => isDigit_of_mem_digitChars hc
  have hne : digitChars coefficient ≠ [] := Nat.toDigits_ne_nil
  rw [pointed]
  by_cases hplaces : places = 0
  · refine ⟨digitChars coefficient, [], ?_, hne, hdigits, by simp, hplaces.symm, ?_⟩
    · rw [if_pos hplaces, if_pos hplaces, List.append_nil]
    · rw [List.append_nil, digitsValue_digitChars]
  simp only [if_neg hplaces]
  split_ifs with hwhole
  -- All digits stand behind the point, after zeros that fill up the places.
  · refine ⟨['0'], List.replicate (places - (digitChars coefficient).length) '0' ++
      digitChars coefficient, rfl, by simp, by simp, fun c hc => ?_, ?_, ?_⟩
    · exact (List.mem_append.mp hc).elim isDigit_of_mem_replicate (hdigits c)
    · simp only [List.length_append, List.length_replicate]
      omega
    · exact (digitsValue_zeros_append 1 _).trans
        ((digitsValue_zeros_append ..).trans (digitsValue_digitChars coefficient))
  -- The point stands between the digits.
  · refine ⟨_, _, rfl, ?_, fun c hc => hdigits c (List.mem_of_mem_take hc),
      fun c hc => hdigits c (List.mem_of_mem_drop hc), ?_, ?_⟩
    · rw [Ne, List.take_eq_nil_iff]
      exact fun h => h.elim hwhole hne
    · rw [List.length_drop]
      omega
    · rw [List.take_append_drop, digitsValue_digitChars]

/-- **Pointed digits are read back**, with as many places as were pointed off. -/
theorem parts?_pointed (coefficient places : Nat) :
    parts? (pointed (digitChars coefficient) places) = some (coefficient, -(places : Int)) := by
  obtain ⟨whole, fraction, hpointed, hne, hwhole, hfraction, hlength, hvalue⟩ :=
    exists_pointed_eq coefficient places
  rw [hpointed]
  split_ifs with hplaces
  · obtain rfl := List.eq_nil_of_length_eq_zero (hlength.trans hplaces)
    have hread := parts?_whole hne hwhole stopsDigits_nil
    rw [List.append_nil] at hvalue
    rw [hvalue] at hread
    rw [hread, hplaces]
    rfl
  · have hread := parts?_fraction hne hwhole hfraction stopsDigits_nil
    rw [hvalue, hlength, List.append_nil] at hread
    refine hread.trans ?_
    simp [exponent?]

theorem magnitude?_pointed (places : Nat) :
    magnitude? negative (pointed (digitChars coefficient) places) =
      bounded? negative coefficient (-places) := by
  rw [magnitude?_eq, parts?_pointed]
  rfl

/-- **Digits with a point after the first are read back**: the digits behind the point are taken
off the exponent that follows. -/
theorem parts?_of_exponent? {leading : Int} (htail : StopsDigits tail)
    (hexponent : exponent? tail = some leading) :
    parts? ((digitChars coefficient).take 1 ++
        (if (digitChars coefficient).length = 1 then []
          else '.' :: (digitChars coefficient).drop 1) ++ tail) =
      some (coefficient, leading - ((digitChars coefficient).length - 1)) := by
  obtain ⟨first, rest, hcons, -⟩ := startsWithDigit_digitChars coefficient
  have hdigits : ∀ c ∈ first :: rest, c.isDigit = true :=
    fun c hc => isDigit_of_mem_digitChars (hcons ▸ hc)
  have hvalue : digitsValue (first :: rest) = coefficient :=
    hcons ▸ digitsValue_digitChars coefficient
  obtain ⟨hfirst, hrest⟩ := List.forall_mem_cons.mp hdigits
  have hwhole : ∀ c ∈ [first], c.isDigit = true := by simpa using hfirst
  rw [hcons]
  by_cases hone : rest = []
  · subst hone
    have hread := parts?_whole (by simp) hwhole htail
    rw [hexponent, Option.map_some, hvalue] at hread
    simpa using hread
  · have hread := parts?_fraction (by simp) hwhole hrest htail
    have hall : digitsValue ([first] ++ rest) = coefficient := hvalue
    rw [hexponent, Option.map_some, hall] at hread
    simpa [hone] using hread

theorem magnitude?_of_exponent? {leading : Int} (htail : StopsDigits tail)
    (hexponent : exponent? tail = some leading) :
    magnitude? negative ((digitChars coefficient).take 1 ++
        (if (digitChars coefficient).length = 1 then []
          else '.' :: (digitChars coefficient).drop 1) ++ tail) =
      bounded? negative coefficient (leading - ((digitChars coefficient).length - 1)) := by
  rw [magnitude?_eq, parts?_of_exponent? htail hexponent]
  rfl

/-- The first digit, a point if more digits follow, and an exponent. -/
def scientific (digits : List Char) (exponent : Int) : List Char :=
  digits.take 1 ++ (if digits.length = 1 then [] else '.' :: digits.drop 1) ++
    'E' :: exponentChars exponent

/-- **The scientific form is read back.** -/
theorem parts?_scientific (coefficient : Nat) (leading : Int) :
    parts? (scientific (digitChars coefficient) leading) =
      some (coefficient, leading - ((digitChars coefficient).length - 1)) := by
  have hstops : StopsDigits ('E' :: exponentChars leading) := by
    intro c hc
    obtain rfl := Option.mem_some_iff.mp hc
    decide
  exact parts?_of_exponent? hstops (exponent?_exponentChars leading)

/-! ### The text of a decimal -/

/-- **A decimal within the limits** of decimals: a number whose first and last digit stand at
exponents that a decimal can have. Reading makes no other number. -/
def WithinLimits : Decimal → Prop
  | .finite negative coefficient exponent =>
    bounded? negative coefficient exponent = some (.finite negative coefficient exponent)
  | _ => False

/-- The text of a number without its sign. -/
def bodyChars (coefficient : Nat) (exponent : Int) : List Char :=
  let digits := digitChars coefficient
  let leading := exponent + digits.length
  if exponent ≤ 0 ∧ -6 < leading then pointed digits (-exponent).toNat
  else scientific digits (leading - 1)

theorem toChars_finite (negative : Bool) (coefficient : Nat) (exponent : Int) :
    (finite negative coefficient exponent).toChars =
      signChars negative ++ bodyChars coefficient exponent :=
  rfl

theorem startsWithDigit_bodyChars (coefficient : Nat) (exponent : Int) :
    StartsWithDigit (bodyChars coefficient exponent) := by
  have hdigits := startsWithDigit_digitChars coefficient
  simp only [bodyChars]
  split_ifs
  · exact startsWithDigit_pointed hdigits _
  · exact ((hdigits.take Nat.one_pos).append _).append _

/-- Signs are such characters. -/
theorem isWritten_of_mem_signChars {c : Char} (h : c ∈ signChars negative) : IsWritten c := by
  rw [signChars] at h
  split_ifs at h
  · obtain rfl := List.mem_singleton.mp h
    exact .inr (by simp)
  · exact absurd h List.not_mem_nil

/-- So are the digits, the point, the mark and the sign of the scientific form. -/
theorem isWritten_of_mem_scientific {digits exponentDigits : List Char} {mark c : Char} {e : Int}
    (hdigits : ∀ c ∈ digits, c.isDigit = true) (hmark : IsWritten mark)
    (hexponent : ∀ c ∈ exponentDigits, c.isDigit = true)
    (h : c ∈ digits.take 1 ++ (if digits.length = 1 then [] else '.' :: digits.drop 1) ++
      mark :: (if e < 0 then '-' else '+') :: exponentDigits) : IsWritten c := by
  rcases List.mem_append.mp h with h | h
  · rcases List.mem_append.mp h with h | h
    · exact .inl (hdigits c (List.mem_of_mem_take h))
    · split_ifs at h
      · exact absurd h List.not_mem_nil
      · rcases List.mem_cons.mp h with rfl | h
        · exact .inr (by simp)
        · exact .inl (hdigits c (List.mem_of_mem_drop h))
  · rcases List.mem_cons.mp h with rfl | h
    · exact hmark
    · rcases List.mem_cons.mp h with rfl | h
      · right
        split_ifs <;> simp
      · exact .inl (hexponent c h)

/-- Pointed digits are made of such characters. -/
theorem isWritten_of_mem_pointed {places n : Nat} {c : Char}
    (h : c ∈ pointed (digitChars n) places) : IsWritten c := by
  rcases isDigit_or_point_of_mem_pointed (fun c hc => isDigit_of_mem_digitChars hc) h with
    hdigit | rfl
  · exact .inl hdigit
  · exact .inr (by simp)

/-- The text of a number is made of the characters that are taken as they stand. -/
theorem isWritten_of_mem_toChars {c : Char}
    (h : c ∈ (finite negative coefficient exponent).toChars) : IsWritten c := by
  rw [toChars_finite] at h
  rcases List.mem_append.mp h with h | h
  · exact isWritten_of_mem_signChars h
  · simp only [bodyChars] at h
    split_ifs at h
    · exact isWritten_of_mem_pointed h
    · exact isWritten_of_mem_scientific (fun c hc => isDigit_of_mem_digitChars hc)
        (.inr (by simp)) (fun c hc => isDigit_of_mem_digitChars hc) h

/-- **A number without its sign is read back**, whatever its exponent. -/
theorem parts?_bodyChars (coefficient : Nat) (exponent : Int) :
    parts? (bodyChars coefficient exponent) = some (coefficient, exponent) := by
  simp only [bodyChars]
  split_ifs with hpoint
  · have hplaces : -((-exponent).toNat : Int) = exponent := by omega
    rw [parts?_pointed, hplaces]
  · have hexponent : exponent + (digitChars coefficient).length - 1 -
        ((digitChars coefficient).length - 1) = exponent := by omega
    rw [parts?_scientific, hexponent]

/-- **The text of a decimal is read back** with its sign, its digits and its exponent. -/
theorem ofText?_toText {d : Decimal} (h : d.WithinLimits) : ofText? d.toText = some d := by
  cases d with
  | finite negative coefficient exponent =>
    have hbounded : bounded? negative coefficient exponent =
      some (.finite negative coefficient exponent) := h
    have hchars : numeralChars (finite negative coefficient exponent).toChars =
        signChars negative ++ bodyChars coefficient exponent :=
      numeralChars_eq_self fun c hc => isWritten_of_mem_toChars hc
    have hread := ofChars?_of_numeralChars hchars (startsWithDigit_bodyChars ..)
    rw [magnitude?_eq, parts?_bodyChars, Option.bind_some, hbounded, Option.some_or] at hread
    rw [ofText?, toText, String.toList_ofList, hread]
  | infinite negative => exact h.elim
  | nan negative signaling payload => exact h.elim

/-! ### Different decimals have different texts -/

/-- The digits behind the name of a NaN. -/
def payloadChars (payload : Nat) : List Char :=
  if payload = 0 then [] else digitChars payload

theorem digitsValue_payloadChars (payload : Nat) :
    digitsValue (payloadChars payload) = payload := by
  rw [payloadChars]
  split_ifs with hzero
  · exact hzero.symm
  · exact digitsValue_digitChars payload

/-- The sign of a decimal. -/
def sign : Decimal → Bool
  | .infinite negative | .nan negative _ _ | .finite negative _ _ => negative

/-- The text of a decimal without its sign. -/
def unsignedChars : Decimal → List Char
  | .infinite _ => "Infinity".toList
  | .nan _ signaling payload =>
    (if signaling then ['s'] else []) ++ ("NaN".toList ++ payloadChars payload)
  | .finite _ coefficient exponent => bodyChars coefficient exponent

theorem toChars_eq (d : Decimal) : d.toChars = signChars d.sign ++ d.unsignedChars := by
  cases d with
  | finite negative coefficient exponent => exact toChars_finite negative coefficient exponent
  | infinite negative => rfl
  | nan negative signaling payload =>
    change signChars negative ++ _ ++ _ ++ _ = signChars negative ++ (_ ++ (_ ++ _))
    rw [List.append_assoc, List.append_assoc]
    rfl

/-- **The kind of a decimal** is told by the first character of its text, the sign aside. -/
theorem exists_unsignedChars_eq (d : Decimal) : ∃ c rest, d.unsignedChars = c :: rest ∧ c ≠ '-' ∧
    (d.isFinite = true ↔ c.isDigit = true) ∧ (d.isNaN = true ↔ c = 's' ∨ c = 'N') := by
  cases d with
  | finite negative coefficient exponent =>
    obtain ⟨c, rest, heq, hdigit⟩ := startsWithDigit_bodyChars coefficient exponent
    refine ⟨c, rest, heq, ?_, iff_of_true rfl hdigit, iff_of_false nofun ?_⟩
    · rintro rfl
      exact absurd hdigit (by decide)
    · rintro (rfl | rfl)
      · exact absurd hdigit (by decide)
      · exact absurd hdigit (by decide)
  | infinite negative => exact ⟨'I', _, rfl, by decide, by simp [isFinite], by simp [isNaN]⟩
  | nan negative signaling payload =>
    cases signaling
    · exact ⟨'N', _, rfl, by decide, by simp [isFinite], by simp [isNaN]⟩
    · exact ⟨'s', _, rfl, by decide, by simp [isFinite], by simp [isNaN]⟩

/-- A text with a sign tells the sign, if the rest of it does not begin with one. -/
theorem eq_of_signChars_append {negative' : Bool} {ds : List Char} (hcs : cs.head? ≠ some '-')
    (hds : ds.head? ≠ some '-') (h : signChars negative ++ cs = signChars negative' ++ ds) :
    negative = negative' ∧ cs = ds := by
  cases negative <;> cases negative'
  · exact ⟨rfl, h⟩
  · obtain rfl : cs = '-' :: ds := h
    exact absurd rfl hcs
  · obtain rfl : '-' :: cs = ds := h
    exact absurd rfl hds
  · exact ⟨rfl, (List.cons.inj h).2⟩

theorem unsignedChars_inj {d e : Decimal} (hsign : d.sign = e.sign)
    (h : d.unsignedChars = e.unsignedChars) : d = e := by
  obtain ⟨c, rest, hc, -, hfinite, hnan⟩ := exists_unsignedChars_eq d
  obtain ⟨c', rest', hc', -, hfinite', hnan'⟩ := exists_unsignedChars_eq e
  obtain ⟨rfl, -⟩ := List.cons.inj (hc.symm.trans (h.trans hc'))
  have hfinite : d.isFinite = true ↔ e.isFinite = true := hfinite.trans hfinite'.symm
  have hnan : d.isNaN = true ↔ e.isNaN = true := hnan.trans hnan'.symm
  cases d with
  | finite negative coefficient exponent =>
    cases e with
    | finite negative' coefficient' exponent' =>
      have hparts := parts?_bodyChars coefficient exponent
      have hbody : bodyChars coefficient exponent = bodyChars coefficient' exponent' := h
      rw [hbody, parts?_bodyChars] at hparts
      obtain ⟨rfl, rfl⟩ := Prod.mk.inj (Option.some.inj hparts)
      exact congrArg (finite · _ _) hsign
    | _ => cases hfinite.mp rfl
  | infinite negative =>
    cases e with
    | finite _ _ _ => cases hfinite.mpr rfl
    | infinite negative' => exact congrArg infinite hsign
    | nan _ _ _ => cases hnan.mpr rfl
  | nan negative signaling payload =>
    cases e with
    | nan negative' signaling' payload' =>
      obtain rfl : negative = negative' := hsign
      have hname : "NaN".toList ++ payloadChars payload = "NaN".toList ++ payloadChars payload' →
          payloadChars payload = payloadChars payload' := List.append_cancel_left
      have hpayload : signaling = signaling' ∧ payloadChars payload = payloadChars payload' := by
        cases signaling <;> cases signaling'
        · exact ⟨rfl, hname h⟩
        · exact absurd (List.cons.inj h).1 (by decide)
        · exact absurd (List.cons.inj h).1 (by decide)
        · exact ⟨rfl, hname (List.cons.inj h).2⟩
      obtain ⟨rfl, hpayload⟩ := hpayload
      have hvalue := congrArg digitsValue hpayload
      rw [digitsValue_payloadChars, digitsValue_payloadChars] at hvalue
      rw [hvalue]
    | _ => cases hnan.mp rfl

/-- **Different decimals have different texts**, whatever their exponents. -/
theorem toChars_injective : Function.Injective toChars := by
  intro d e h
  obtain ⟨c, rest, hc, hminus, -⟩ := exists_unsignedChars_eq d
  obtain ⟨c', rest', hc', hminus', -⟩ := exists_unsignedChars_eq e
  rw [toChars_eq, toChars_eq] at h
  obtain ⟨hsign, hunsigned⟩ := eq_of_signChars_append (by simpa [hc] using hminus)
    (by simpa [hc'] using hminus') h
  exact unsignedChars_inj hsign hunsigned

end Decimal

end RuleFlow.Number
