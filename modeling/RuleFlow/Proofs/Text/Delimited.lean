import Mathlib.Algebra.Group.Nat.Defs
import Mathlib.Data.List.Basic
import RuleFlow.Text.Quoted

/-!
# Texts that tell where they end

What is written one after the other can be read again if each part tells where it ends. There are
three ways to do so.

* **A code for single characters** ends by itself, and a row of such codes at a mark that no code
  begins with (`RuleFlow.Text.eq_of_flatMap`). Escapes after a backslash are such a code
  (`RuleFlow.Text.Escaped`).
* **A word** ends at the first character of another kind (`RuleFlow.Text.eq_of_words`).
* **A list** says after each item, by a separator or by a closing bracket, whether there is another
  one (`RuleFlow.Text.eq_of_separated`).

In each case the text tells what was written and what follows it, whatever that is. Quoted texts are
of the first kind (`RuleFlow.Text.eq_of_quoteChars`), and the reader of quoted texts gives each of
them back (`RuleFlow.Text.unquote_quoted`).
-/

namespace RuleFlow.Text

variable {α : Type} {s t : List Char}

/-! ### Codes -/

/-- **A code tells where it ends**: in any text that begins with a code, the code tells what it
stands for, and the rest of the text what follows. -/
def SelfDelimiting (code : α → List Char) : Prop :=
  ∀ a b s t, code a ++ s = code b ++ t → a = b ∧ s = t

/-- **A row of codes** ends at a mark that no code begins with. -/
theorem eq_of_flatMap {code : α → List Char} {mark : Char} (hcode : SelfDelimiting code)
    (hmark : ∀ a s t, code a ++ s ≠ mark :: t) {xs ys : List α}
    (h : xs.flatMap code ++ mark :: s = ys.flatMap code ++ mark :: t) : xs = ys ∧ s = t := by
  induction xs generalizing ys with
  | nil =>
    cases ys with
    | nil => exact ⟨rfl, (List.cons.inj h).2⟩
    | cons y ys =>
      rw [List.flatMap_cons, List.append_assoc] at h
      exact absurd h.symm (hmark y _ _)
  | cons x xs ih =>
    cases ys with
    | nil =>
      rw [List.flatMap_cons, List.append_assoc] at h
      exact absurd h (hmark x _ _)
    | cons y ys =>
      rw [List.flatMap_cons, List.flatMap_cons, List.append_assoc, List.append_assoc] at h
      obtain ⟨rfl, htail⟩ := hcode x y _ _ h
      obtain ⟨rfl, hrest⟩ := ih htail
      exact ⟨rfl, hrest⟩

/-! ### Escapes -/

theorem length_hexDigits (width n : Nat) : (hexDigits width n).length = width := by
  induction width generalizing n with
  | zero => rfl
  | succ width ih => simp [hexDigits, ih]

/-- **Hexadecimal digits tell the number** that fits their width. -/
theorem hexDigits_injective {width m n : Nat} (hm : m < 16 ^ width) (hn : n < 16 ^ width)
    (h : hexDigits width m = hexDigits width n) : m = n := by
  have hdigit : ∀ d < 16, ∀ e < 16, hexDigit d = hexDigit e → d = e := by decide
  induction width generalizing m n with
  | zero => omega
  | succ width ih =>
    rw [Nat.pow_succ] at hm hn
    obtain ⟨hfirst, hlast⟩ := List.append_inj' h rfl
    have hdiv : m / 16 = n / 16 := ih (by omega) (by omega) hfirst
    have hmod : m % 16 = n % 16 :=
      hdigit _ (Nat.mod_lt _ (by decide)) _ (Nat.mod_lt _ (by decide)) (List.cons.inj hlast).1
    omega

/-- **The form of a character** between quotes: a backslash with a letter, one of the code points
with a letter for their width, or the character itself. -/
inductive Escaped (mark : Char) (short : List (Char × Char)) (codes : List (Char × Nat))
    (c : Char) : List Char → Prop
  /-- A backslash and the letter for the character. -/
  | short {letter : Char} : (c, letter) ∈ short → Escaped mark short codes c ['\\', letter]
  /-- A backslash, the letter for a width, and the code point. -/
  | code {letter : Char} {width : Nat} : (letter, width) ∈ codes → c.toNat < 16 ^ width →
      Escaped mark short codes c ('\\' :: letter :: hexDigits width c.toNat)
  /-- The character. -/
  | plain : c ≠ mark → c ≠ '\\' → Escaped mark short codes c [c]

/-- **The letters of an escape tell its kind**: no two characters have one letter, no two widths,
and no character has that of a width. -/
structure TellingLetters (short : List (Char × Char)) (codes : List (Char × Nat)) : Prop where
  /-- A letter stands for one character. -/
  character : ∀ p ∈ short, ∀ q ∈ short, p.2 = q.2 → p.1 = q.1
  /-- A letter stands for one width. -/
  width : ∀ p ∈ codes, ∀ q ∈ codes, p.1 = q.1 → p.2 = q.2
  /-- A letter does not stand for both. -/
  apart : ∀ p ∈ short, ∀ q ∈ codes, p.2 ≠ q.1

section Escaped

variable {mark : Char} {short : List (Char × Char)} {codes : List (Char × Nat)}
  {escape : Char → List Char}

/-- **The form of a character tells the character**, and where the form ends. -/
theorem selfDelimiting_of_escaped (hletters : TellingLetters short codes)
    (hescape : ∀ c, Escaped mark short codes c (escape c)) : SelfDelimiting escape := by
  intro c d s t h
  have hc := hescape c
  have hd := hescape d
  generalize escape c = cs at hc h
  generalize escape d = ds at hd h
  cases hc with
  | short hshort =>
    cases hd with
    | short hshort' =>
      simp only [List.cons_append, List.nil_append, List.cons.injEq, true_and] at h
      exact ⟨hletters.character _ hshort _ hshort' h.1, h.2⟩
    | code hcode' _ =>
      simp only [List.cons_append, List.nil_append, List.cons.injEq, true_and] at h
      exact absurd h.1 (hletters.apart _ hshort _ hcode')
    | plain _ hslash' => exact absurd (List.cons.inj h).1.symm hslash'
  | code hcode hlt =>
    cases hd with
    | short hshort' =>
      simp only [List.cons_append, List.nil_append, List.cons.injEq, true_and] at h
      exact absurd h.1.symm (hletters.apart _ hshort' _ hcode)
    | code hcode' hlt' =>
      simp only [List.cons_append, List.cons.injEq, true_and] at h
      obtain ⟨hletter, htail⟩ := h
      obtain rfl := hletters.width _ hcode _ hcode' hletter
      obtain ⟨hdigits, hrest⟩ := List.append_inj htail (by simp only [length_hexDigits])
      exact ⟨Char.toNat_inj.mp (hexDigits_injective hlt hlt' hdigits), hrest⟩
    | plain _ hslash' => exact absurd (List.cons.inj h).1.symm hslash'
  | plain _ hslash =>
    cases hd with
    | short _ => exact absurd (List.cons.inj h).1 hslash
    | code _ _ => exact absurd (List.cons.inj h).1 hslash
    | plain _ _ => exact List.cons.inj h

/-- No form of a character begins with the quote. -/
theorem escaped_append_ne (hmark : mark ≠ '\\') {c : Char} {cs : List Char}
    (h : Escaped mark short codes c cs) : cs ++ s ≠ mark :: t := by
  cases h with
  | short _ => exact fun h => hmark (List.cons.inj h).1.symm
  | code _ _ => exact fun h => hmark (List.cons.inj h).1.symm
  | plain hne _ => exact fun h => hne (List.cons.inj h).1

/-- **A text in quotes tells the text**, and where it ends. -/
theorem eq_of_quoted (hmark : mark ≠ '\\') (hletters : TellingLetters short codes)
    (hescape : ∀ c, Escaped mark short codes c (escape c)) {cs ds : List Char}
    (h : (mark :: cs.flatMap escape ++ [mark]) ++ s = (mark :: ds.flatMap escape ++ [mark]) ++ t) :
    cs = ds ∧ s = t := by
  have hopen : ∀ c s t, escape c ++ s ≠ mark :: t := fun c _ _ =>
    escaped_append_ne hmark (hescape c)
  exact eq_of_flatMap (selfDelimiting_of_escaped hletters hescape) hopen (by simpa using h)

end Escaped

/-! ### Words -/

/-- **A word ends** at the first character of another kind. -/
theorem eq_of_words {kind : Char → Prop} {cs ds : List Char} (hcs : ∀ c ∈ cs, kind c)
    (hds : ∀ c ∈ ds, kind c) (hs : ∀ c ∈ s.head?, ¬kind c) (ht : ∀ c ∈ t.head?, ¬kind c)
    (h : cs ++ s = ds ++ t) : cs = ds ∧ s = t := by
  induction cs generalizing ds with
  | nil =>
    cases ds with
    | nil => exact ⟨rfl, h⟩
    | cons d ds =>
      obtain rfl : s = d :: (ds ++ t) := h
      exact absurd (hds d List.mem_cons_self) (hs d rfl)
  | cons c cs ih =>
    cases ds with
    | nil =>
      obtain rfl : c :: (cs ++ s) = t := h
      exact absurd (hcs c List.mem_cons_self) (ht c rfl)
    | cons d ds =>
      obtain ⟨rfl, htail⟩ := List.cons.inj h
      obtain ⟨rfl, hrest⟩ := ih (fun c hc => hcs c (List.mem_cons_of_mem _ hc))
        (fun c hc => hds c (List.mem_cons_of_mem _ hc)) htail
      exact ⟨rfl, hrest⟩

/-! ### Lists -/

section Separated

variable {code : α → List Char} {separator : List Char} {comma bracket : Char}
  {follows : List Char → Prop} {xs ys : List α}

theorem intercalate_map_cons (separator : List Char) (code : α → List Char) (x : α)
    (xs : List α) : separator.intercalate ((x :: xs).map code) =
      code x ++ xs.flatMap fun y => separator ++ code y := by
  induction xs generalizing x with
  | nil => simp
  | cons y ys ih =>
    rw [List.map_cons, List.map_cons, List.intercalate_cons_cons, ← List.map_cons, ih,
      List.flatMap_cons, List.append_assoc, List.append_assoc]

/-- After an item, a separator or the bracket follows. -/
theorem follows_of_separated (hcomma : ∀ s, follows (comma :: s))
    (hbracket : ∀ s, follows (bracket :: s)) (xs : List α) (s : List Char) :
    follows ((xs.flatMap fun x => (comma :: separator) ++ code x) ++ bracket :: s) := by
  cases xs with
  | nil => exact hbracket s
  | cons x xs => exact hcomma _

/-- The items of a list after its first, each after a separator, and the bracket. -/
theorem eq_of_separated_rest (hne : comma ≠ bracket) (hcomma : ∀ s, follows (comma :: s))
    (hbracket : ∀ s, follows (bracket :: s))
    (hcode : ∀ x ∈ xs, ∀ y ∈ ys, ∀ s t, follows s → follows t →
      code x ++ s = code y ++ t → x = y ∧ s = t)
    (h : (xs.flatMap fun x => (comma :: separator) ++ code x) ++ bracket :: s =
      (ys.flatMap fun y => (comma :: separator) ++ code y) ++ bracket :: t) :
    xs = ys ∧ s = t := by
  induction xs generalizing ys with
  | nil =>
    cases ys with
    | nil => exact ⟨rfl, (List.cons.inj h).2⟩
    | cons y ys => exact absurd (List.cons.inj h).1.symm hne
  | cons x xs ih =>
    cases ys with
    | nil => exact absurd (List.cons.inj h).1 hne
    | cons y ys =>
      simp only [List.flatMap_cons, List.append_assoc, List.cons_append, List.cons.injEq, true_and,
        List.append_cancel_left_eq] at h
      obtain ⟨rfl, htail⟩ := hcode x List.mem_cons_self y List.mem_cons_self _ _
        (follows_of_separated hcomma hbracket xs s) (follows_of_separated hcomma hbracket ys t) h
      obtain ⟨rfl, hrest⟩ := ih (fun x hx y hy => hcode x (List.mem_cons_of_mem _ hx) y
        (List.mem_cons_of_mem _ hy)) htail
      exact ⟨rfl, hrest⟩

/-- **A list with separators and a bracket at its end.** It tells its items if each of them is told
by its text wherever a separator or the bracket follows, and no item begins with the bracket. -/
theorem eq_of_separated (hne : comma ≠ bracket) (hcomma : ∀ s, follows (comma :: s))
    (hbracket : ∀ s, follows (bracket :: s))
    (hcode : ∀ x ∈ xs, ∀ y ∈ ys, ∀ s t, follows s → follows t →
      code x ++ s = code y ++ t → x = y ∧ s = t)
    (hxs : ∀ x ∈ xs, ∀ s t, code x ++ s ≠ bracket :: t)
    (hys : ∀ y ∈ ys, ∀ s t, code y ++ s ≠ bracket :: t)
    (h : (comma :: separator).intercalate (xs.map code) ++ bracket :: s =
      (comma :: separator).intercalate (ys.map code) ++ bracket :: t) : xs = ys ∧ s = t := by
  -- No separator stands before the first item: the bracket tells that there is none.
  cases xs with
  | nil =>
    cases ys with
    | nil => exact ⟨rfl, (List.cons.inj h).2⟩
    | cons y ys =>
      rw [intercalate_map_cons, List.append_assoc] at h
      exact absurd h.symm (hys y List.mem_cons_self _ _)
  | cons x xs =>
    cases ys with
    | nil =>
      rw [intercalate_map_cons, List.append_assoc] at h
      exact absurd h (hxs x List.mem_cons_self _ _)
    | cons y ys =>
      rw [intercalate_map_cons, intercalate_map_cons, List.append_assoc, List.append_assoc] at h
      obtain ⟨rfl, htail⟩ := hcode x List.mem_cons_self y List.mem_cons_self _ _
        (follows_of_separated hcomma hbracket xs s) (follows_of_separated hcomma hbracket ys t) h
      obtain ⟨rfl, hrest⟩ := eq_of_separated_rest hne hcomma hbracket (fun x hx y hy =>
        hcode x (List.mem_cons_of_mem _ hx) y (List.mem_cons_of_mem _ hy)) htail
      exact ⟨rfl, hrest⟩

end Separated

/-! ### Quoted texts -/

theorem escaped_escapeChar (mark c : Char) :
    Escaped mark (shortForms mark) codeForms c (escapeChar mark c) := by
  rw [escapeChar]
  split_ifs with hmark htab hnewline hreturn hprintable
  · refine .short ?_
    rcases hmark with rfl | rfl <;> simp [shortForms]
  iterate 3
    · subst c
      exact .short (by simp [shortForms])
  · obtain ⟨hne, hslash⟩ := not_or.mp hmark
    exact .plain hne hslash
  · rw [codeEscape]
    have hlt : c.toNat < 0x110000 := by
      have hvalid := c.valid
      rcases hvalid with hlow | ⟨-, hhigh⟩
      · exact Nat.lt_trans hlow (by decide)
      · exact hhigh
    split_ifs with hbyte hpair
    · exact .code (by simp [codeForms]) hbyte
    · exact .code (by simp [codeForms]) hpair
    · exact .code (by simp [codeForms]) (Nat.lt_trans hlt (by decide))

theorem quoteMark_cases (cs : List Char) : quoteMark cs = '\'' ∨ quoteMark cs = '"' := by
  rw [quoteMark]
  split_ifs
  · exact .inr rfl
  · exact .inl rfl

/-- **A quoted text tells the text**, and where it ends. The first quote tells which quotes were
chosen. -/
theorem eq_of_quoteChars {cs ds : List Char} (h : quoteChars cs ++ s = quoteChars ds ++ t) :
    cs = ds ∧ s = t := by
  have hmark : quoteMark cs = quoteMark ds := (List.cons.inj h).1
  have hletters : TellingLetters (shortForms (quoteMark cs)) codeForms := by
    rcases quoteMark_cases cs with hcs | hcs <;> rw [hcs] <;> constructor <;> decide
  have hslash : quoteMark cs ≠ '\\' := by
    rcases quoteMark_cases cs with hcs | hcs <;> rw [hcs] <;> decide
  rw [quoteChars, quoteChars, ← hmark] at h
  exact eq_of_quoted hslash hletters (escaped_escapeChar _) h

/-! ### Reading quoted texts -/

section Unquote

variable {mark c : Char} {cs : List Char} {left value digit width n : Nat}

theorem hexValue?_hexDigit (h : n < 16) : hexValue? (hexDigit n) = some n := by
  revert n
  decide

theorem unquote_digit (h : hexValue? c = some digit) (s : List Char) :
    unquote mark (.code (left + 1) value) (c :: s) =
      unquote mark (.code left (value * 16 + digit)) s := by
  simp only [unquote, h]

theorem unquote_lastDigit (h : hexValue? c = some digit) {d : Char}
    (hd : value * 16 + digit = d.toNat) (s : List Char) :
    unquote mark (.code 0 value) (c :: s) =
      (unquote mark .plain s).map fun (chars, rest) => (d :: chars, rest) := by
  have hvalid : d.toNat.isValidChar := d.valid
  simp only [unquote, h, hd, if_pos hvalid, Char.ofNat_toNat]

/-- **The digits of a code point** are read one by one. -/
theorem unquote_hexDigits (hn : n < 16 ^ width) (left value : Nat) (s : List Char) :
    unquote mark (.code (left + width) value) (hexDigits width n ++ s) =
      unquote mark (.code left (value * 16 ^ width + n)) s := by
  induction width generalizing left n s with
  | zero =>
    obtain rfl : n = 0 := by omega
    simp [hexDigits]
  | succ width ih =>
    have hlt : n / 16 < 16 ^ width := by
      rw [Nat.pow_succ] at hn
      omega
    have hvalue : (value * 16 ^ width + n / 16) * 16 + n % 16 = value * 16 ^ (width + 1) + n := by
      rw [Nat.pow_succ, ← Nat.mul_assoc, Nat.add_mul, Nat.add_assoc]
      omega
    rw [hexDigits, List.append_assoc, ← Nat.add_assoc, Nat.add_right_comm, ih hlt,
      List.singleton_append, unquote_digit (hexValue?_hexDigit (Nat.mod_lt _ (by decide))), hvalue]

/-- A character that is written by its code point is read as the character. -/
theorem unquote_codePoint (hwidth : 0 < width) (hlt : c.toNat < 16 ^ width) (s : List Char) :
    unquote mark (.code (width - 1) 0) (hexDigits width c.toNat ++ s) =
      (unquote mark .plain s).map fun (chars, rest) => (c :: chars, rest) := by
  obtain ⟨width, rfl⟩ := Nat.exists_eq_add_of_lt hwidth
  rw [Nat.zero_add] at hlt ⊢
  have hfirst : c.toNat / 16 < 16 ^ width := by
    rw [Nat.pow_succ] at hlt
    omega
  have hdigits : unquote mark (.code width 0)
      (hexDigits width (c.toNat / 16) ++ hexDigit (c.toNat % 16) :: s) =
        unquote mark (.code 0 (c.toNat / 16)) (hexDigit (c.toNat % 16) :: s) := by
    simpa using unquote_hexDigits hfirst 0 0 (hexDigit (c.toNat % 16) :: s)
  rw [hexDigits, List.append_assoc, List.singleton_append, Nat.add_sub_cancel, hdigits]
  exact unquote_lastDigit (hexValue?_hexDigit (Nat.mod_lt _ (by decide))) (by omega) s

/-- **The form of a character** between quotes is read as the character. -/
theorem unquote_of_escaped (hmark : mark = '\'' ∨ mark = '"')
    (h : Escaped mark (shortForms mark) codeForms c cs) (s : List Char) :
    unquote mark .plain (cs ++ s) =
      (unquote mark .plain s).map fun (chars, rest) => (c :: chars, rest) := by
  have hslash : '\\' ≠ mark := by rcases hmark with rfl | rfl <;> decide
  cases h with
  | @short letter hshort =>
    have hletter : (shortForms mark).find? (·.2 == letter) = some (c, letter) := by
      rcases hmark with rfl | rfl <;>
        simp only [shortForms, List.mem_cons, Prod.mk.injEq, List.not_mem_nil,
          or_false] at hshort <;>
        rcases hshort with ⟨rfl, rfl⟩ | ⟨rfl, rfl⟩ | ⟨rfl, rfl⟩ | ⟨rfl, rfl⟩ | ⟨rfl, rfl⟩ <;> rfl
    simp [unquote, hslash, hletter]
  | @code letter width hcode hlt =>
    have hletter : (shortForms mark).find? (·.2 == letter) = none ∧
        codeForms.lookup letter = some width ∧ 0 < width := by
      simp only [codeForms, List.mem_cons, Prod.mk.injEq, List.not_mem_nil, or_false] at hcode
      rcases hmark with rfl | rfl <;>
        rcases hcode with ⟨rfl, rfl⟩ | ⟨rfl, rfl⟩ | ⟨rfl, rfl⟩ <;> decide
    obtain ⟨hnone, hlookup, hwidth⟩ := hletter
    simp only [List.cons_append, unquote, if_neg hslash, if_true, hnone, hlookup]
    exact unquote_codePoint hwidth hlt s
  | plain hne hne' => simp [unquote, hne, hne']

/-- **A text in quotes is read back** up to its closing quote. -/
theorem unquote_quoted (hmark : mark = '\'' ∨ mark = '"') (cs s : List Char) :
    unquote mark .plain (cs.flatMap (escapeChar mark) ++ mark :: s) = some (cs, s) := by
  induction cs with
  | nil => simp [unquote]
  | cons c cs ih =>
    rw [List.flatMap_cons, List.append_assoc, unquote_of_escaped hmark (escaped_escapeChar mark c),
      ih, Option.map_some]

end Unquote

end RuleFlow.Text
