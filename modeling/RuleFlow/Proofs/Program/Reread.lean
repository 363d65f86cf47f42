import RuleFlow.Program.Run
import RuleFlow.Proofs.Ends
import RuleFlow.Proofs.Number.ShortestText
import RuleFlow.Proofs.Program.Literal
import RuleFlow.Proofs.Value.RoundTrip

/-!
# Literals are read back

A program holds its values as literals only, and reads each of them back when it needs the value.
This file shows for which values that makes no difference.

Three things do not outlast being written. A double that is not a number is another object each time
it is read, a moment may lose a split second of its offset, and a whole number of too many digits
cannot be written at all. A value without them comes back as it was, whatever stands behind its
literal.

* `RuleFlow.Literal.Stops` is what can stand behind a literal.
* `RuleFlow.Literal.readSeparated_intercalate`: items are read back one by one if each of them is.
* `RuleFlow.Value.Lasting` are the values that outlast being written, and
  `RuleFlow.Value.Lasting.readsBack` is the result on them.
* `RuleFlow.Program.Lasts` says it of all values in a program, and
  `RuleFlow.Program.Lasts.load_eq` that such a program loads.
-/

namespace RuleFlow

open Number Calendar

/-! ### Reading what was written -/

namespace Literal

variable {place : List Nat} {cs s : List Char} {fuel : Nat}

/-- **What can stand behind a literal**: no character with which a word would go on, and no bracket
that would make a call of it. -/
def Stops (s : List Char) : Prop :=
  ∀ c ∈ s.head?, isWordChar c = false ∧ c ≠ '('

theorem stops_nil : Stops [] :=
  fun c hc => absurd hc (Option.not_mem_none c)

theorem stops_cons {c : Char} (hword : isWordChar c = false) (hopen : c ≠ '(') (s : List Char) :
    Stops (c :: s) := by
  intro d hd
  obtain rfl : c = d := Option.some.inj hd
  exact ⟨hword, hopen⟩

/-- **A text in quotes** is read back. -/
theorem readText_quoteChars (cs s : List Char) :
    readText (Text.quoteChars cs ++ s) = some (String.ofList cs, s) := by
  have hmark := Text.quoteMark_cases cs
  simp only [Text.quoteChars, List.cons_append, List.append_assoc, List.nil_append, readText]
  rw [if_pos hmark, Text.unquote_quoted hmark]
  rfl

/-- A word ends where something else begins. -/
theorem span_word (hword : ∀ c ∈ cs, isWordChar c = true)
    (hs : ∀ c ∈ s.head?, isWordChar c = false) :
    (cs ++ s).takeWhile isWordChar = cs ∧ (cs ++ s).dropWhile isWordChar = s := by
  have hrest : s.takeWhile isWordChar = [] ∧ s.dropWhile isWordChar = s := by
    cases s with
    | nil => exact ⟨rfl, rfl⟩
    | cons c s => simp [hs c rfl]
  rw [List.takeWhile_append_of_pos hword, List.dropWhile_append_of_pos hword, hrest.1, hrest.2,
    List.append_nil]
  exact ⟨rfl, rfl⟩

theorem readWord_word (place : List Nat) (hword : ∀ c ∈ cs, isWordChar c = true)
    (hs : Stops s) :
    readWord place (cs ++ s) = (ofWord? cs).map fun v => (v, s) := by
  obtain ⟨htake, hdrop⟩ := span_word hword fun c hc => (hs c hc).1
  rw [readWord, htake, hdrop]
  split
  next rest => exact absurd rfl (hs '(' rfl).2
  next => rfl

/-- **A call on a text** is read back, at the place that its end tells. -/
theorem readWord_callChars (place : List Nat) {function : String}
    (hword : function.toList.all isWordChar = true) (argument : String) (s : List Char) :
    readWord place (Value.callChars function argument ++ s) =
      (ofCall? (s.length :: place) function argument).map fun v => (v, s) := by
  have hopen : ∀ c ∈ ('(' :: (Text.quoteChars argument.toList ++ ')' :: s)).head?,
      isWordChar c = false := by
    intro c hc
    obtain rfl : '(' = c := Option.some.inj hc
    rfl
  obtain ⟨htake, hdrop⟩ := span_word (List.all_eq_true.mp hword) hopen
  rw [Value.callChars, List.append_assoc, List.cons_append, List.append_assoc,
    List.singleton_append, readWord, htake, hdrop]
  simp only [readText_quoteChars, String.ofList_toList]

/-- What begins with a character of words is a word or a call. -/
theorem readValue_of_isWordChar {c : Char} (hc : isWordChar c = true) (cs : List Char) :
    readValue place (fuel + 1) (c :: cs) = readWord place (c :: cs) := by
  have hquote : ¬(c = '\'' ∨ c = '"') := by
    rintro (rfl | rfl) <;> exact absurd hc (by decide)
  rw [readValue.eq_def]
  dsimp only
  split
  next heq =>
    obtain rfl : c = '[' := (List.cons.inj heq).1
    exact absurd hc (by decide)
  next heq =>
    obtain rfl : c = '\x7b' := (List.cons.inj heq).1
    exact absurd hc (by decide)
  next => rw [readText, if_neg hquote, Option.map_none, Option.none_or]

/-- **A call on a text** is a literal that is read back, at the place that its end tells. -/
theorem readValue_callChars {function argument : String} {v : Value} (hne : function.toList ≠ [])
    (hword : function.toList.all isWordChar = true)
    (hvalue : ofCall? (s.length :: place) function argument = some v) :
    readValue place (fuel + 1) (Value.callChars function argument ++ s) = some (v, s) := by
  have hread := readWord_callChars place hword argument s
  obtain ⟨c, rest, hfunction⟩ := List.exists_cons_of_ne_nil hne
  have hopening : Value.callChars function argument =
      c :: (rest ++ '(' :: (Text.quoteChars argument.toList ++ [')'])) := by
    rw [Value.callChars, hfunction, List.cons_append]
  rw [hvalue, Option.map_some, hopening] at hread
  rw [hopening]
  have hc : isWordChar c = true :=
    List.all_eq_true.mp hword c (hfunction ▸ List.mem_cons_self)
  exact (readValue_of_isWordChar hc _).trans hread

/-! ### Lists and records -/

section Separated

variable {α : Type} {closing : Char} {item : List Char → Reading α} {code : α → List Char}
  {xs : List α}

/-- Items that are not empty are no longer together than their list. -/
theorem length_le_intercalate (separator : List Char) (hne : ∀ x ∈ xs, code x ≠ []) :
    xs.length ≤ (separator.intercalate (xs.map code)).length ∧
      ∀ x ∈ xs, (code x).length ≤ (separator.intercalate (xs.map code)).length := by
  induction xs with
  | nil => simp
  | cons x xs ih =>
    obtain ⟨hx, hxs⟩ := List.forall_mem_cons.mp hne
    have hpos := List.length_pos_of_ne_nil hx
    cases xs with
    | nil =>
      rw [List.map_singleton, List.intercalate_singleton]
      exact ⟨hpos, List.forall_mem_singleton.mpr le_rfl⟩
    | cons y ys =>
      obtain ⟨hcount, hitems⟩ := ih hxs
      rw [List.map_cons, List.map_cons, List.intercalate_cons_cons, ← List.map_cons,
        List.length_append, List.length_append, List.length_cons]
      refine ⟨by omega, List.forall_mem_cons.mpr ⟨by omega, fun z hz => ?_⟩⟩
      have hle := hitems z hz
      omega

theorem readSeparated_last {x : α} (hcomma : closing ≠ ',') (hhead : cs.head? ≠ some closing)
    (hitem : item cs = some (x, closing :: s)) :
    readSeparated closing item (fuel + 1) cs = some ([x], s) := by
  rw [readSeparated, if_neg hhead, hitem]
  split
  next heq => exact nomatch heq
  next heq => exact absurd (List.cons.inj (Prod.mk.inj (Option.some.inj heq)).2).1 hcomma
  next heq =>
    obtain ⟨rfl, rfl⟩ := Prod.mk.inj (Option.some.inj heq)
    exact if_pos rfl

theorem readSeparated_next {x : α} (hhead : cs.head? ≠ some closing)
    (hitem : item cs = some (x, ',' :: ' ' :: s)) :
    readSeparated closing item (fuel + 1) cs =
      (readSeparated closing item fuel s).map fun (xs, rest) => (x :: xs, rest) := by
  rw [readSeparated, if_neg hhead, hitem]
  rfl

/-- **Items up to a closing bracket** are read back one by one, if each of them is and none of them
begins with the bracket. -/
theorem readSeparated_intercalate (hcomma : closing ≠ ',') (hstops : ∀ s, Stops (closing :: s))
    (hclosing : ∀ s, item (closing :: s) = none)
    (hitem : ∀ x ∈ xs, ∀ s, Stops s → item (code x ++ s) = some (x, s)) (hfuel : xs.length < fuel)
    (s : List Char) :
    readSeparated closing item fuel ([',', ' '].intercalate (xs.map code) ++ closing :: s) =
      some (xs, s) := by
  induction xs generalizing fuel with
  | nil =>
    obtain ⟨fuel, rfl⟩ := Nat.exists_eq_succ_of_ne_zero (Nat.ne_zero_of_lt hfuel)
    simp [readSeparated]
  | cons x xs ih =>
    obtain ⟨fuel, rfl⟩ := Nat.exists_eq_succ_of_ne_zero (Nat.ne_zero_of_lt hfuel)
    obtain ⟨hx, hxs⟩ := List.forall_mem_cons.mp hitem
    have hhead : ∀ s, Stops s → (code x ++ s).head? ≠ some closing := by
      intro s hs hhead
      obtain ⟨rest, heq⟩ := List.head?_eq_some_iff.mp hhead
      have hnone := hclosing rest
      rw [← heq, hx s hs] at hnone
      exact nomatch hnone
    cases xs with
    | nil =>
      rw [List.map_singleton, List.intercalate_singleton]
      exact readSeparated_last hcomma (hhead _ (hstops s)) (hx _ (hstops s))
    | cons y ys =>
      have hnext : ∀ s, Stops (',' :: ' ' :: s) := fun s => stops_cons (by decide) (by decide) _
      rw [List.map_cons, List.map_cons, List.intercalate_cons_cons, ← List.map_cons,
        List.append_assoc, List.append_assoc, List.cons_append, List.cons_append, List.nil_append]
      refine (readSeparated_next (hhead _ (hnext _)) (hx _ (hnext _))).trans ?_
      rw [ih hxs (Nat.lt_of_succ_lt_succ hfuel)]
      rfl

/-- The text is long enough to bound the number of its items. -/
theorem readSeparated_length (hcomma : closing ≠ ',') (hstops : ∀ s, Stops (closing :: s))
    (hclosing : ∀ s, item (closing :: s) = none) (hne : ∀ x ∈ xs, code x ≠ [])
    (hitem : ∀ x ∈ xs, ∀ s, Stops s → item (code x ++ s) = some (x, s)) (s : List Char) :
    readSeparated closing item ([',', ' '].intercalate (xs.map code) ++ closing :: s).length
      ([',', ' '].intercalate (xs.map code) ++ closing :: s) = some (xs, s) := by
  refine readSeparated_intercalate hcomma hstops hclosing hitem ?_ s
  have hcount := (length_le_intercalate [',', ' '] hne).1
  rw [List.length_append, List.length_cons]
  omega

end Separated

end Literal

/-! ### Values that outlast being written -/

namespace Value

open Literal

/-- **A value that outlasts being written**: there is no double in it that is not a number, no
moment with a split second in its offset, and no whole number of too many digits. The keys of a
record are different in any case, and a decimal that is a number has its limits. -/
inductive Lasting : Value → Prop
  /-- Nothing. -/
  | null : Lasting .null
  /-- A truth value. -/
  | bool (b : Bool) : Lasting (.bool b)
  /-- A whole number. -/
  | int {n : Int} : n.natAbs < tenPow mostDigits → Lasting (.int n)
  /-- A double. -/
  | float {x : Binary64} : (∀ which, x ≠ .nan which) → Lasting (.float x)
  /-- A decimal that is a number. -/
  | decimal {d : Decimal} : d.WithinLimits → Lasting (.decimal d)
  /-- A decimal that is infinite. -/
  | infinity (negative : Bool) : Lasting (.decimal (.infinite negative))
  /-- A text. -/
  | text (s : String) : Lasting (.text s)
  /-- A date. -/
  | day (d : Date) : Lasting (.temporal (.day d))
  /-- A moment. -/
  | moment {m : Moment} : ¬m.SplitsSecond → Lasting (.temporal (.moment m))
  /-- A list. -/
  | list {items : List Value} : (∀ v ∈ items, Lasting v) → Lasting (.list items)
  /-- A record. -/
  | record {fields : List (String × Value)} : (Keyed.keys fields).Nodup →
      (∀ f ∈ fields, Lasting f.2) → Lasting (.record fields)

/-- **A value is read back** from its literal, wherever the program does so and whatever stands
behind the literal. -/
def ReadsBack (v : Value) : Prop :=
  ∀ place fuel s, v.literalChars.length ≤ fuel → Stops s →
    readValue place fuel (v.literalChars ++ s) = some (v, s)

variable {v : Value} {items : List Value} {fields : List (String × Value)}

theorem tenPow_le_tenPow {m n : Nat} (h : m ≤ n) : tenPow m ≤ tenPow n :=
  Nat.pow_le_pow_right (by decide) h

/-- A whole number of few digits outlasts being written. -/
theorem Lasting.int_of_lt {n : Int} {width : Nat} (h : n.natAbs < tenPow width)
    (hwidth : width ≤ mostDigits) : Lasting (.int n) :=
  .int (Nat.lt_of_lt_of_le h (tenPow_le_tenPow hwidth))

/-! ### Words -/

theorem exists_fuel (hne : v.literalChars ≠ []) (hfuel : v.literalChars.length ≤ fuel) :
    ∃ rest, fuel = rest + 1 :=
  Nat.exists_eq_succ_of_ne_zero
    (Nat.ne_zero_of_lt (Nat.lt_of_lt_of_le (List.length_pos_of_ne_nil hne) hfuel))

/-- A word that stands for a value. -/
theorem readsBack_of_word (hne : v.literalChars ≠ [])
    (hword : ∀ c ∈ v.literalChars, isWordChar c = true)
    (hvalue : ofWord? v.literalChars = some v) : ReadsBack v := by
  intro place fuel s hfuel hs
  obtain ⟨fuel, rfl⟩ := exists_fuel hne hfuel
  have hread := readWord_word place hword hs
  rw [hvalue, Option.map_some] at hread
  obtain ⟨c, rest, hchars⟩ := List.exists_cons_of_ne_nil hne
  rw [hchars] at hread hword ⊢
  exact (readValue_of_isWordChar (hword c List.mem_cons_self) _).trans hread

theorem isWordChar_of_isWholeChar {c : Char} (h : IsWholeChar c) : isWordChar c = true := by
  rcases h with h | rfl
  · simp [isWordChar, Char.isAlphanum, h]
  · rfl

theorem isNumberChar_of_isNumeralChar {c : Char} (h : IsNumeralChar c) :
    Literal.isNumberChar c = true := by
  rcases h with (h | rfl) | rfl | rfl | rfl
  · simp [Literal.isNumberChar, h]
  · rfl
  · rfl
  · rfl
  · rfl

theorem isWordChar_of_isNumeralChar {c : Char} (h : IsNumeralChar c) : isWordChar c = true := by
  rcases h with h | rfl | rfl | rfl
  · exact isWordChar_of_isWholeChar h
  · rfl
  · rfl
  · rfl

/-- **Digits with a sign** are read as the number that they have. -/
theorem whole?_signChars (negative : Bool) {digits : List Char} (hne : digits ≠ [])
    (hdigits : ∀ c ∈ digits, c.isDigit = true) (hlength : digits.length ≤ mostDigits) :
    whole? (Decimal.signChars negative ++ digits) =
      some (Decimal.signed negative (Decimal.digitsValue digits)) := by
  have hall : digits.all Char.isDigit = true := List.all_eq_true.mpr hdigits
  cases negative with
  | true => exact if_pos ⟨hne, hall, hlength⟩
  | false =>
    change whole? digits = _
    rw [whole?.eq_def]
    split
    next heq =>
      split at heq
      next => exact absurd (hdigits '-' List.mem_cons_self) (by decide)
      next =>
        obtain ⟨rfl, rfl⟩ := Prod.mk.inj heq
        exact if_pos ⟨hne, hall, hlength⟩

theorem whole?_toString {n : Int} (h : n.natAbs < tenPow mostDigits) :
    whole? (toString n).toList = some n := by
  have hsigned : Decimal.signed (decide (n < 0)) n.natAbs = n := by
    rw [Decimal.signed]
    split_ifs with hneg
    · rw [decide_eq_true_eq] at hneg
      omega
    · rw [decide_eq_true_eq] at hneg
      omega
  have hne : digitChars n.natAbs ≠ [] := Nat.toDigits_ne_nil
  have hread := whole?_signChars (decide (n < 0)) hne (fun _ => isDigit_of_mem_digitChars)
    (length_digitChars_le (by decide) h)
  rwa [Decimal.digitsValue_digitChars, hsigned, ← toList_toString] at hread

theorem readsBack_int {n : Int} (h : n.natAbs < tenPow mostDigits) : ReadsBack (.int n) := by
  have hchars : ∀ c ∈ literalChars (.int n), IsWholeChar c := fun c => isWholeChar_of_mem_toString
  refine readsBack_of_word (toString_ne_nil n)
    (fun c hc => isWordChar_of_isWholeChar (hchars c hc)) ?_
  have hnone : ∀ c, ¬IsWholeChar c → (literalChars (.int n)).contains c = false := by
    intro c hc
    rw [List.contains_eq_mem, decide_eq_false_iff_not]
    exact fun hmem => hc (hchars c hmem)
  rw [ofWord?, Literal.number?, hnone '.' (by decide), hnone 'e' (by decide)]
  change ((whole? (toString n).toList).map Value.int).or _ = _
  rw [whole?_toString h]
  rfl

theorem literalChars_finite (x : Binary64.Finite) :
    literalChars (.float (.finite x)) = (Binary64.finite x).toChars :=
  String.toList_ofList

theorem readsBack_finite (x : Binary64.Finite) : ReadsBack (.float (.finite x)) := by
  obtain ⟨hchars, c, hc, hpoint⟩ := Binary64.toChars_finite_chars x
  have hmark : ((Binary64.finite x).toChars.contains '.' ||
      (Binary64.finite x).toChars.contains 'e') = true := by
    rw [Bool.or_eq_true, List.contains_iff_mem, List.contains_iff_mem]
    rcases hpoint with rfl | rfl
    · exact .inl hc
    · exact .inr hc
  have hall : (Binary64.finite x).toChars.all Literal.isNumberChar = true :=
    List.all_eq_true.mpr fun c hc => isNumberChar_of_isNumeralChar (hchars c hc)
  have hnumber : Literal.number? (Binary64.finite x).toChars = some (.float (.finite x)) := by
    rw [Literal.number?, if_pos hmark, if_pos hall]
    change (Binary64.ofText? (Binary64.finite x).toText).map Value.float = _
    rw [Binary64.ofText?_toText]
    rfl
  refine readsBack_of_word ?_ ?_ ?_
  · rw [literalChars_finite]
    exact List.ne_nil_of_mem hc
  · rw [literalChars_finite]
    exact fun c hc => isWordChar_of_isNumeralChar (hchars c hc)
  · rw [literalChars_finite, ofWord?, hnumber]
    rfl

theorem readsBack_null : ReadsBack .null :=
  readsBack_of_word (by decide) (List.all_eq_true.mp rfl) rfl

theorem readsBack_bool (b : Bool) : ReadsBack (.bool b) := by
  cases b with
  | true => exact readsBack_of_word (by decide) (List.all_eq_true.mp rfl) rfl
  | false => exact readsBack_of_word (by decide) (List.all_eq_true.mp rfl) rfl

/-! ### Calls -/

/-- A call that makes a value. -/
theorem readsBack_of_call {function argument : String}
    (hchars : v.literalChars = callChars function argument) (hne : function.toList ≠ [])
    (hword : function.toList.all isWordChar = true)
    (hvalue : ∀ place, ofCall? place function argument = some v) : ReadsBack v := by
  intro place fuel s hfuel hs
  obtain ⟨fuel, rfl⟩ := exists_fuel (by simp [hchars, callChars]) hfuel
  rw [hchars]
  exact readValue_callChars hne hword (hvalue _)

/-- What is no number is written as a call. -/
theorem literalChars_special {x : Binary64} (h : ∀ y, x ≠ .finite y) :
    literalChars (.float x) = callChars "float" x.toText := by
  have htext : literalText (.float x) = "float(" ++ Text.quote x.toText ++ ")" := by
    cases x with
    | finite y => exact absurd rfl (h y)
    | infinite negative => rfl
    | nan which => rfl
  rw [literalChars, htext]
  simp [callChars, Text.quote]

theorem readsBack_infinite (negative : Bool) : ReadsBack (.float (.infinite negative)) := by
  refine readsBack_of_call (literalChars_special (by simp)) (by decide) rfl fun place => ?_
  rw [ofCall?, Binary64.ofText?_toText]
  rfl

theorem readsBack_decimal {d : Decimal} (h : Decimal.ofText? d.toText = some d) :
    ReadsBack (.decimal d) := by
  refine readsBack_of_call (literalChars_decimal d) (by decide) rfl fun place => ?_
  rw [ofCall?, h]
  rfl

theorem readsBack_day (d : Date) : ReadsBack (.temporal (.day d)) := by
  refine readsBack_of_call (literalChars_day d) (by decide) rfl fun place => ?_
  rw [ofCall?, readDate_isoText]
  rfl

theorem readsBack_moment {m : Moment} (h : ¬m.SplitsSecond) :
    ReadsBack (.temporal (.moment m)) := by
  refine readsBack_of_call (literalChars_moment m) (by decide) rfl fun place => ?_
  rw [ofCall?, readMoment_isoText, m.readBack_eq_self_iff.mpr h]
  rfl

/-! ### Texts, lists and records -/

theorem readsBack_text (x : String) : ReadsBack (.text x) := by
  intro place fuel s hfuel hs
  have hread := readText_quoteChars x.toList s
  rw [String.ofList_toList] at hread
  rw [literalChars_text] at hfuel ⊢
  obtain ⟨fuel, rfl⟩ := Nat.exists_eq_succ_of_ne_zero (Nat.ne_zero_of_lt hfuel)
  rw [Text.quoteChars, List.cons_append] at hread ⊢
  -- Neither of the quotes opens a list or a record.
  rcases Text.quoteMark_cases x.toList with hmark | hmark
  all_goals
    rw [hmark] at hread ⊢
    rw [readValue]
    · rw [hread]
      rfl
    · exact fun rest h => absurd (List.cons.inj h).1 (by decide)
    · exact fun rest h => absurd (List.cons.inj h).1 (by decide)

theorem readValue_bracket (place : List Nat) (fuel : Nat) (s : List Char) :
    readValue place fuel (']' :: s) = none := by
  cases fuel <;> rfl

/-- A value that is read back has a literal. -/
theorem ReadsBack.literalChars_ne_nil (h : ReadsBack v) : v.literalChars ≠ [] := by
  intro hnil
  have hread := h [] 0 [] (by rw [hnil]; rfl) stops_nil
  exact nomatch hread

theorem readsBack_list (h : ∀ v ∈ items, ReadsBack v) : ReadsBack (.list items) := by
  intro place fuel s hfuel hs
  have hne : ∀ v ∈ items, v.literalChars ≠ [] := fun v hv => (h v hv).literalChars_ne_nil
  have hlength := (length_le_intercalate [',', ' '] hne).2
  rw [literalChars_list] at hfuel ⊢
  obtain ⟨fuel, rfl⟩ := Nat.exists_eq_succ_of_ne_zero (Nat.ne_zero_of_lt hfuel)
  simp only [List.length_cons, List.length_append, List.length_nil] at hfuel
  have hitems : ∀ v ∈ items, ∀ s, Stops s →
      readValue place fuel (v.literalChars ++ s) = some (v, s) := by
    intro v hv s hs
    have hle := hlength v hv
    exact h v hv place fuel s (by omega) hs
  have hread := readSeparated_length (by decide) (stops_cons (by decide) (by decide))
    (readValue_bracket place fuel) hne hitems s
  rw [List.cons_append, List.append_assoc, List.singleton_append, readValue, hread]
  rfl

theorem readField_bracket (value : List Char → Reading Value) (s : List Char) :
    readField value ('\x7d' :: s) = none := rfl

theorem readsBack_record (hkeys : (Keyed.keys fields).Nodup) (h : ∀ f ∈ fields, ReadsBack f.2) :
    ReadsBack (.record fields) := by
  intro place fuel s hfuel hs
  have hne : ∀ f ∈ fields, fieldChars f ≠ [] := fun f _ => by simp [fieldChars, Text.quoteChars]
  have hlength := (length_le_intercalate [',', ' '] hne).2
  rw [literalChars_record] at hfuel ⊢
  obtain ⟨fuel, rfl⟩ := Nat.exists_eq_succ_of_ne_zero (Nat.ne_zero_of_lt hfuel)
  simp only [List.length_cons, List.length_append, List.length_nil] at hfuel
  have hfields : ∀ f ∈ fields, ∀ s, Stops s →
      readField (readValue place fuel) (fieldChars f ++ s) = some (f, s) := by
    intro f hf s hs
    have hle := hlength f hf
    simp only [fieldChars, List.length_append, List.length_cons] at hle
    have hvalue := h f hf place fuel s (by omega) hs
    rw [fieldChars, List.append_assoc, readField, readText_quoteChars, String.ofList_toList]
    change (readValue place fuel (f.2.literalChars ++ s)).map _ = _
    rw [hvalue]
    rfl
  have hread := readSeparated_length (by decide) (stops_cons (by decide) (by decide))
    (readField_bracket _) hne hfields s
  rw [List.cons_append, List.append_assoc, List.singleton_append, readValue, hread]
  change some (record (Keyed.ofPairs fields), s) = _
  rw [Keyed.ofPairs_of_nodup hkeys]

/-- **What outlasts being written is read back.** -/
theorem Lasting.readsBack (hv : v.Lasting) : ReadsBack v := by
  induction hv with
  | null => exact readsBack_null
  | bool b => exact readsBack_bool b
  | int h => exact readsBack_int h
  | @float x h =>
    cases x with
    | finite x => exact readsBack_finite x
    | infinite negative => exact readsBack_infinite negative
    | nan which => exact absurd rfl (h which)
  | decimal h => exact readsBack_decimal (Decimal.ofText?_toText h)
  | infinity negative => exact readsBack_decimal (by cases negative <;> decide)
  | text s => exact readsBack_text s
  | day d => exact readsBack_day d
  | moment h => exact readsBack_moment h
  | list _ ih => exact readsBack_list ih
  | record hkeys _ ih => exact readsBack_record hkeys ih

theorem checkItems_eq_ok (h : ∀ v ∈ items, Json.check false v = .ok ()) :
    Json.checkItems false items = .ok () := by
  induction items with
  | nil => rfl
  | cons v rest ih =>
    obtain ⟨hv, hrest⟩ := List.forall_mem_cons.mp h
    rw [Json.checkItems, hv]
    exact ih hrest

theorem checkFields_eq_ok (h : ∀ f ∈ fields, Json.check false f.2 = .ok ()) :
    Json.checkFields false fields = .ok () := by
  induction fields with
  | nil => rfl
  | cons f rest ih =>
    obtain ⟨hf, hrest⟩ := List.forall_mem_cons.mp h
    rw [Json.checkFields, hf]
    exact ih hrest

/-- What outlasts being written can be written. -/
theorem Lasting.check (hv : v.Lasting) : Json.check false v = .ok () := by
  induction hv with
  | int h => rw [Json.check, if_neg (Nat.not_le.mpr h)]
  | @float x h => cases x <;> rfl
  | list _ ih => rw [Json.check, checkItems_eq_ok ih]
  | record _ _ ih => rw [Json.check, checkFields_eq_ok ih]
  | _ => rfl

end Value

/-! ### Programs -/

namespace Program

variable {v : Value} {p : Program} {place : List Nat}

/-- **Wherever a program reads a value back** that outlasts being written, it gets the value. -/
theorem reread_of_lasting (hv : v.Lasting) (place : List Nat) : reread place v = .ok v := by
  have hread := hv.readsBack place v.literalChars.length [] le_rfl Literal.stops_nil
  rw [List.append_nil, Value.literalChars] at hread
  simp only [reread, Literal.read?, hread]

/-- **A list with a double that is not a number** is another list at each place where it is read, as
the double is made anew. -/
theorem reread_nan (which : Nan) (place : List Nat) :
    reread place (.list [.float (.nan which)]) =
      .ok (.list [.float (.nan (.written (1 :: place)))]) := by
  have hchars : Value.literalChars (.list [.float (.nan which)]) =
      '[' :: (Value.callChars "float" (Binary64.nan which).toText ++ [']']) := by
    rw [Value.literalChars_list, List.map_singleton, List.intercalate_singleton,
      Value.literalChars_special (by simp)]
  have hitem : ∀ fuel, Literal.readValue place (fuel + 1)
      (Value.callChars "float" (Binary64.nan which).toText ++ [']']) =
        some (.float (.nan (.written (1 :: place))), [']']) := by
    intro fuel
    refine Literal.readValue_callChars (by decide) rfl ?_
    rw [Literal.ofCall?, Binary64.ofText?_toText]
    rfl
  have hread : Literal.readValue place (Value.literalChars (.list [.float (.nan which)])).length
      (Value.literalChars (.list [.float (.nan which)])) =
        some (.list [.float (.nan (.written (1 :: place)))], []) := by
    rw [hchars, List.length_cons, List.length_append, List.length_singleton, Literal.readValue,
      List.length_append, List.length_singleton,
      Literal.readSeparated_last (by decide) (by simp [Value.callChars]) (hitem _)]
    rfl
  rw [Value.literalChars] at hread
  simp only [reread, Literal.read?, hread]

/-- **All values in a program outlast being written.** -/
def Lasts (p : Program) : Prop :=
  ∀ v ∈ p.written, v.Lasting

/-- What is written in a block of the program is written in the program. -/
theorem Lasts.of_block? (h : p.Lasts) {id : String} {statements : List Statement}
    (hblock : p.block? id = some statements) :
    ∀ statement ∈ statements, ∀ v ∈ statement.written, v.Lasting := by
  obtain ⟨block, hfind, rfl⟩ := Option.map_eq_some_iff.mp hblock
  intro statement hstatement v hv
  refine h v (List.mem_cons_of_mem _ (List.mem_append_right _ ?_))
  exact List.mem_flatMap.mpr ⟨block, List.mem_of_find?_eq_some hfind,
    List.mem_flatMap.mpr ⟨statement, hstatement, hv⟩⟩

theorem rereadDefaults_of_lasting {seeds : List Seed} (h : ∀ s ∈ seeds, s.default.Lasting) :
    rereadDefaults seeds = .ok seeds := by
  induction seeds with
  | nil => rfl
  | cons s rest ih =>
    obtain ⟨hs, hrest⟩ := List.forall_mem_cons.mp h
    rw [rereadDefaults, reread_of_lasting hs, ih hrest]
    rfl

/-- A program loads if everything in it can be written and read. -/
theorem load_eq (hcheck : ∀ v ∈ p.written, Json.check false v = .ok ())
    (hread : ∀ v ∈ p.written, ∃ w, reread [] v = .ok w) :
    p.load = rereadDefaults p.inputs := by
  have hreads : (p.written.forM fun v => (reread [] v).map fun _ => ()) = .ok () := by
    refine forM_eq_ok_of_forall fun v hv => ?_
    obtain ⟨w, hw⟩ := hread v hv
    rw [hw]
    rfl
  rw [load, forM_eq_ok_of_forall hcheck, hreads]
  rfl

/-- **A program whose values outlast being written** loads, and its inputs are those that were
declared. -/
theorem Lasts.load_eq (h : p.Lasts) : p.load = .ok p.inputs := by
  rw [Program.load_eq (fun v hv => (h v hv).check)
    fun v hv => ⟨v, reread_of_lasting (h v hv) []⟩]
  refine rereadDefaults_of_lasting fun s hs => h _ ?_
  exact List.mem_cons_of_mem _ (List.mem_append_left _ (List.mem_map_of_mem hs))

/-- The call of a program that has been loaded. -/
theorem call_eq {declared : List Seed} (h : p.load = .ok declared) (inputs : Value) :
    p.call inputs = (do
      let context ← Seed.context declared (inputs.orElse (.record []))
      p.loop p.limit.toNat { context, step := some p.entry }) := by
  rw [call, h]
  rfl

theorem run_of_call {inputs : Value} {outcome : Outcome} (h : p.call inputs = .ok outcome) :
    p.run inputs = .ok outcome := by
  unfold run
  rw [h]

end Program

end RuleFlow
