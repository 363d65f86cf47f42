import Mathlib.Data.List.Basic
import RuleFlow.Json.Writer
import RuleFlow.Proofs.Number.Numeral
import RuleFlow.Proofs.Number.WholeText
import RuleFlow.Proofs.Text.Delimited

/-!
# Unique readability of compact JSON

The compact form of a value tells the value, and tells where it ends, whatever follows.

## Why it does

* **Texts** stand in quotes, and what is written for one character is never the beginning of what
  is written for another, nor of the closing quote (`RuleFlow.Json.eq_of_quotedChars_append`).
* **Tokens**, the forms of all other scalars, are free of the marks that may follow a value. So the
  first mark ends the token (`RuleFlow.Json.eq_of_tokens`), and tokens of different kinds differ in
  their characters.
* **Lists and records** say after each item whether there is another one.

`RuleFlow.Json.compactChars` is the compact form as a list of characters, and
`RuleFlow.Json.Writable.reads` says that a value is read off it. `RuleFlow.Json.eq_of_write` is the
result. Whether different doubles have different texts is left open: it is assumed of the doubles of
the two values.
-/

namespace RuleFlow.Json

open Number

/-! ### Texts in quotes -/

/-- The characters with a short escape, each with the letter of its escape. -/
def shortEscapes : List (Char × Char) :=
  [('"', '"'), ('\\', '\\'), ('\n', 'n'), ('\r', 'r'), ('\t', 't'), ('\x08', 'b'), ('\x0c', 'f')]

/-- The widths of the code points that stand between quotes, each with its letter. -/
def codeEscapeForms : List (Char × Nat) :=
  [('u', 4)]

/-- **The form of a character** in a text: a short escape, an escape by its code, or itself. -/
theorem escaped_escapeChar (c : Char) :
    Text.Escaped '"' shortEscapes codeEscapeForms c (escapeChar false c) := by
  rw [escapeChar]
  split_ifs with hquote hslash hnewline hreturn htab hback hfeed hcontrol
  iterate 7
    · subst c
      exact .short (by decide)
  · have hcode : c.toNat < 32 := by simpa using hcontrol
    rw [codeEscapes, if_pos (by omega), unitEscape]
    exact .code (by decide) (Nat.lt_trans hcode (by decide))
  · exact .plain hquote hslash

/-- The characters of a text in quotes. -/
def quotedChars (s : String) : List Char :=
  '"' :: s.toList.flatMap (escapeChar false) ++ ['"']

/-- **A text in quotes tells the text**, and where it ends. -/
theorem eq_of_quotedChars_append {x y : String} {s t : List Char}
    (h : quotedChars x ++ s = quotedChars y ++ t) : x = y ∧ s = t := by
  have hletters : Text.TellingLetters shortEscapes codeEscapeForms := by constructor <;> decide
  obtain ⟨htext, hrest⟩ := Text.eq_of_quoted (by decide) hletters escaped_escapeChar h
  exact ⟨String.toList_inj.mp htext, hrest⟩

/-! ### Tokens -/

/-- The marks around values. No token holds one. -/
def marks : List Char :=
  [',', ']', '\x7d', '[', '\x7b', '"']

/-- **A token**: some characters, none of which is a mark. -/
def IsToken (cs : List Char) : Prop :=
  cs ≠ [] ∧ ∀ c ∈ cs, c ∉ marks

/-- **What may follow a value**: nothing, or a mark. -/
def Follows (s : List Char) : Prop :=
  ∀ c ∈ s.head?, c ∈ marks

theorem follows_nil : Follows [] := by simp [Follows]

theorem follows_cons {c : Char} {s : List Char} (h : c ∈ marks) : Follows (c :: s) := by
  simpa [Follows] using h

/-- **A token ends at the first mark.** -/
theorem eq_of_tokens {cs ds s t : List Char} (hc : IsToken cs) (hd : IsToken ds) (hs : Follows s)
    (ht : Follows t) (h : cs ++ s = ds ++ t) : cs = ds ∧ s = t :=
  Text.eq_of_words hc.2 hd.2 (fun c hc => not_not_intro (hs c hc))
    (fun c hc => not_not_intro (ht c hc)) h

theorem not_mem_marks_of_isWholeChar {c : Char} (h : IsWholeChar c) : c ∉ marks := by
  rcases h with hdigit | rfl
  · intro hmark
    have hmarks : ∀ c ∈ marks, c.isDigit = false := by simp [marks]
    simp [hmarks c hmark] at hdigit
  · decide

/-! ### The text of doubles -/

/-- **What the text of a double is like**: it is a token, it holds a character that no whole number
has, and it begins like none of the words. -/
structure DoubleChars (cs : List Char) : Prop where
  /-- It holds no mark. -/
  token : ∀ c ∈ cs, c ∉ marks
  /-- It is no whole number. -/
  broken : ∃ c ∈ cs, ¬IsWholeChar c
  /-- It is no word. -/
  head : ∀ c ∈ cs.head?, c ∉ ['n', 't', 'f']

theorem doubleChars_of_finite (x : Binary64.Finite) :
    DoubleChars (Binary64.finite x).toChars := by
  obtain ⟨hchars, c, hc, hpoint⟩ := Binary64.toChars_finite_chars x
  refine ⟨fun c hc => ?_, ⟨c, hc, ?_⟩, fun c hc hletter => ?_⟩
  · rcases hchars c hc with hwhole | rfl | rfl | rfl
    · exact not_mem_marks_of_isWholeChar hwhole
    all_goals decide
  · rcases hpoint with rfl | rfl <;> simp [IsWholeChar]
  · have hletters : ∀ c ∈ ['n', 't', 'f'], ¬IsNumeralChar c := by
      simp [IsNumeralChar, IsWholeChar]
    exact hletters c hletter (hchars c (List.mem_of_mem_head? hc))

theorem doubleChars_writeDouble (x : Binary64) : DoubleChars (writeDouble x).toList := by
  have hspecial : ∀ cs ∈ ["NaN".toList, "Infinity".toList, "-Infinity".toList],
      (∀ c ∈ cs, c ∉ marks) ∧ (∃ c ∈ cs, c.isDigit = false ∧ c ≠ '-') ∧
        ∀ c ∈ cs.head?, c ∉ ['n', 't', 'f'] := by
    simp [marks]
  have hdouble : ∀ cs ∈ ["NaN".toList, "Infinity".toList, "-Infinity".toList],
      DoubleChars cs := by
    intro cs hcs
    obtain ⟨htoken, ⟨c, hc, hdigit, hminus⟩, hhead⟩ := hspecial cs hcs
    exact ⟨htoken, ⟨c, hc, by simp [IsWholeChar, hdigit, hminus]⟩, hhead⟩
  cases x with
  | finite x =>
    have hchars : (writeDouble (.finite x)).toList = (Binary64.finite x).toChars :=
      String.toList_ofList
    rw [hchars]
    exact doubleChars_of_finite x
  | infinite negative =>
    cases negative
    · exact hdouble _ (by decide)
    · exact hdouble _ (by decide)
  | nan which =>
    have hword : "NaN".toList ∈ ["NaN".toList, "Infinity".toList, "-Infinity".toList] := by decide
    exact hdouble _ hword

/-! ### The compact form -/

mutual

/-- **The compact form** of a value, as characters. -/
def compactChars : Value → List Char
  | .null => "null".toList
  | .bool true => "true".toList
  | .bool false => "false".toList
  | .int n => (toString n).toList
  | .float x => (writeDouble x).toList
  | .decimal d => quotedChars d.toText
  | .text s => quotedChars s
  | .temporal t => quotedChars t.display
  | .list items => '[' :: itemChars items
  | .record fields => '\x7b' :: fieldChars fields

/-- The items of a list, and the closing bracket. -/
def itemChars : List Value → List Char
  | [] => [']']
  | v :: rest => compactChars v ++ moreItemChars rest

/-- The items of a list after its first, each after a comma, and the closing bracket. -/
def moreItemChars : List Value → List Char
  | [] => [']']
  | v :: rest => ',' :: (compactChars v ++ moreItemChars rest)

/-- The fields of a record, and the closing brace. -/
def fieldChars : List (String × Value) → List Char
  | [] => ['\x7d']
  | (key, v) :: rest => quotedChars key ++ ':' :: (compactChars v ++ moreFieldChars rest)

/-- The fields of a record after its first, each after a comma, and the closing brace. -/
def moreFieldChars : List (String × Value) → List Char
  | [] => ['\x7d']
  | (key, v) :: rest => ',' :: (quotedChars key ++ ':' :: (compactChars v ++ moreFieldChars rest))

end

/-- The characters of a field: its key, a colon, and its value. -/
def entryChars (f : String × Value) : List Char :=
  quotedChars f.1 ++ ':' :: compactChars f.2

theorem moreItemChars_eq (items : List Value) :
    moreItemChars items = (items.flatMap fun v => [','] ++ compactChars v) ++ [']'] := by
  induction items with
  | nil => rfl
  | cons v rest ih =>
    rw [moreItemChars, ih, List.flatMap_cons, List.append_assoc, List.append_assoc]
    rfl

/-- The items of a list stand between commas. -/
theorem itemChars_eq (items : List Value) :
    itemChars items = [','].intercalate (items.map compactChars) ++ [']'] := by
  cases items with
  | nil => rfl
  | cons v rest =>
    rw [itemChars, moreItemChars_eq, Text.intercalate_map_cons, List.append_assoc]

theorem moreFieldChars_eq (fields : List (String × Value)) :
    moreFieldChars fields = (fields.flatMap fun f => [','] ++ entryChars f) ++ ['\x7d'] := by
  induction fields with
  | nil => rfl
  | cons f rest ih =>
    rw [moreFieldChars, ih, List.flatMap_cons]
    simp [entryChars]

/-- The fields of a record stand between commas. -/
theorem fieldChars_eq (fields : List (String × Value)) :
    fieldChars fields = [','].intercalate (fields.map entryChars) ++ ['\x7d'] := by
  cases fields with
  | nil => rfl
  | cons f rest =>
    rw [fieldChars, moreFieldChars_eq, Text.intercalate_map_cons]
    simp [entryChars]

theorem toList_writeText (s : String) : (writeText compact.asciiOnly s).toList = quotedChars s := by
  rw [writeText, String.toList_ofList, quotedChars]
  rfl

/-- Written items between brackets, where nothing is put on a line of its own. -/
theorem toList_enclose (depth : Nat) (opening closing : String) (items : List String) :
    (compact.enclose depth opening closing items).toList =
      opening.toList ++ ([','].intercalate (items.map String.toList) ++ closing.toList) := by
  rw [Layout.enclose]
  split_ifs with hempty
  · rw [List.isEmpty_iff] at hempty
    simp [hempty]
  · simp [Layout.newline, compact, String.toList_intercalate]

/-- A written field. -/
theorem toList_field (key value : String) :
    (writeText compact.asciiOnly key ++ compact.keyGap ++ value).toList =
      quotedChars key ++ ':' :: value.toList := by
  rw [String.toList_append, String.toList_append, toList_writeText, List.append_assoc]
  rfl

mutual

/-- **What is written** is the compact form. -/
theorem toList_writeAt (depth : Nat) : ∀ v, (writeAt compact depth v).toList = compactChars v
  | .null | .bool true | .bool false | .int _ | .float _ => rfl
  | .decimal d => toList_writeText d.toText
  | .text s => toList_writeText s
  | .temporal t => toList_writeText t.display
  | .list items => by
    rw [writeAt, toList_enclose, map_writeItems (depth + 1) items, compactChars, itemChars_eq]
    rfl
  | .record fields => by
    rw [writeAt, toList_enclose, map_writeFields (depth + 1) fields, compactChars, fieldChars_eq]
    rfl

/-- The items of a list, each in its compact form. -/
theorem map_writeItems (depth : Nat) : ∀ items,
    (writeItems compact depth items).map String.toList = items.map compactChars
  | [] => rfl
  | v :: rest => by
    rw [writeItems, List.map_cons, toList_writeAt depth v, map_writeItems depth rest,
      List.map_cons]

/-- The fields of a record, each in its compact form. -/
theorem map_writeFields (depth : Nat) : ∀ fields,
    (writeFields compact depth fields).map String.toList = fields.map entryChars
  | [] => rfl
  | (key, v) :: rest => by
    rw [writeFields, List.map_cons, toList_field, toList_writeAt depth v,
      map_writeFields depth rest, List.map_cons, entryChars]

end

/-! ### Reading the compact form -/

/-- **A value that JSON can hold**: there are no decimals and no temporal values in it, and its
doubles are among given ones. -/
inductive Writable (doubles : Binary64 → Prop) : Value → Prop
  /-- Nothing. -/
  | null : Writable doubles .null
  /-- A truth value. -/
  | bool (b : Bool) : Writable doubles (.bool b)
  /-- A whole number. -/
  | int (n : Int) : Writable doubles (.int n)
  /-- A double. -/
  | float {x : Binary64} : doubles x → Writable doubles (.float x)
  /-- A text. -/
  | text (s : String) : Writable doubles (.text s)
  /-- A list. -/
  | list {items : List Value} : (∀ v ∈ items, Writable doubles v) → Writable doubles (.list items)
  /-- A record. -/
  | record {fields : List (String × Value)} : (∀ f ∈ fields, Writable doubles f.2) →
      Writable doubles (.record fields)

/-- The words for nothing and for the truth values. -/
def plainWords : List (Value × List Char) :=
  [(.null, "null".toList), (.bool true, "true".toList), (.bool false, "false".toList)]

/-- **A value written as a token.** -/
inductive Token : Value → List Char → Prop
  /-- A word. -/
  | word {v : Value} {cs : List Char} : (v, cs) ∈ plainWords → Token v cs
  /-- A whole number. -/
  | whole (n : Int) : Token (.int n) (toString n).toList
  /-- A double. -/
  | double (x : Binary64) : Token (.float x) (writeDouble x).toList

namespace Token

variable {v w : Value} {cs : List Char}

/-- A word holds letters only, and begins like no double. -/
theorem word_chars (h : (v, cs) ∈ plainWords) :
    IsToken cs ∧ (∃ c ∈ cs, c.isDigit = false ∧ c ≠ '-') ∧ ∃ c ∈ cs.head?, c ∈ ['n', 't', 'f'] := by
  have hwords : ∀ cs ∈ plainWords.map Prod.snd, (cs ≠ [] ∧ ∀ c ∈ cs, c ∉ marks) ∧
      (∃ c ∈ cs, c.isDigit = false ∧ c ≠ '-') ∧ ∃ c ∈ cs.head?, c ∈ ['n', 't', 'f'] := by
    simp [plainWords, marks]
  exact hwords cs (List.mem_map_of_mem h)

theorem isToken (h : Token v cs) : IsToken cs := by
  cases h with
  | word h => exact (word_chars h).1
  | whole n =>
    exact ⟨toString_ne_nil n, fun c hc =>
      not_mem_marks_of_isWholeChar (isWholeChar_of_mem_toString hc)⟩
  | double x =>
    have hchars := doubleChars_writeDouble x
    obtain ⟨c, hc, -⟩ := hchars.broken
    exact ⟨List.ne_nil_of_mem hc, hchars.token⟩

/-! ### Words, whole numbers and doubles have different texts -/

theorem toString_not_mem_plainWords {n : Int} : ¬(v, (toString n).toList) ∈ plainWords := by
  intro hword
  obtain ⟨-, ⟨c, hc, hdigit, hminus⟩, -⟩ := word_chars hword
  rcases isWholeChar_of_mem_toString hc with hwhole | rfl
  · exact absurd (hdigit.symm.trans hwhole) (by decide)
  · exact hminus rfl

theorem writeDouble_not_mem_plainWords {x : Binary64} :
    ¬(v, (writeDouble x).toList) ∈ plainWords := by
  intro hword
  obtain ⟨-, -, c, hc, hletter⟩ := word_chars hword
  exact (doubleChars_writeDouble x).head c hc hletter

theorem toString_ne_writeDouble {n : Int} {x : Binary64} :
    (toString n).toList ≠ (writeDouble x).toList := by
  intro heq
  obtain ⟨c, hc, hbroken⟩ := (doubleChars_writeDouble x).broken
  exact hbroken (isWholeChar_of_mem_toString (heq ▸ hc))

/-- **A token tells the value**, if different doubles have different texts. -/
theorem unique (h : Token v cs) (h' : Token w cs)
    (hdoubles : ∀ x y, v = .float x → w = .float y → writeDouble x = writeDouble y → x = y) :
    v = w := by
  generalize hcs : cs = ds at h'
  cases h with
  | word h =>
    cases h' with
    | word h' =>
      have hwords : ∀ p ∈ plainWords, ∀ q ∈ plainWords, p.2 = q.2 → p.1 = q.1 := by
        simp [plainWords]
      exact hwords _ h _ h' hcs
    | whole n => exact absurd (hcs ▸ h) toString_not_mem_plainWords
    | double x => exact absurd (hcs ▸ h) writeDouble_not_mem_plainWords
  | whole n =>
    cases h' with
    | word h' => exact absurd (hcs ▸ h') toString_not_mem_plainWords
    | whole m => exact congrArg Value.int (eq_of_toString hcs)
    | double x => exact absurd hcs toString_ne_writeDouble
  | double x =>
    cases h' with
    | word h' => exact absurd (hcs ▸ h') writeDouble_not_mem_plainWords
    | whole n => exact absurd hcs.symm toString_ne_writeDouble
    | double y => exact congrArg Value.float (hdoubles x y rfl rfl (String.toList_inj.mp hcs))

end Token

section Reads

variable {known doubles : Binary64 → Prop} {v w : Value} {s t : List Char}
  {items items' : List Value} {fields fields' : List (String × Value)}

/-- **The forms of a writable value**: a token, a text in quotes, a list or a record. -/
theorem Writable.forms (h : Writable doubles v) :
    Token v (compactChars v) ∨ (∃ x, v = .text x) ∨
      (∃ items, v = .list items ∧ ∀ u ∈ items, Writable doubles u) ∨
      ∃ fields, v = .record fields ∧ ∀ f ∈ fields, Writable doubles f.2 := by
  cases h with
  | null => exact .inl (.word (by simp [plainWords, compactChars]))
  | bool b => cases b <;> exact .inl (.word (by simp [plainWords, compactChars]))
  | int n => exact .inl (.whole n)
  | float _ => exact .inl (.double _)
  | text x => exact .inr (.inl ⟨x, rfl⟩)
  | list hitems => exact .inr (.inr (.inl ⟨_, rfl, hitems⟩))
  | record hfields => exact .inr (.inr (.inr ⟨_, rfl, hfields⟩))

/-- A token does not begin with a mark. -/
theorem Token.append_ne {cs : List Char} (h : Token v cs) {c : Char} (hc : c ∈ marks) :
    cs ++ s ≠ c :: t := by
  obtain ⟨hne, hmarks⟩ := h.isToken
  obtain ⟨d, rest, rfl⟩ := List.exists_cons_of_ne_nil hne
  intro heq
  obtain rfl : d = c := (List.cons.inj heq).1
  exact hmarks d List.mem_cons_self hc

/-- The compact form of a value does not begin with a closing bracket. -/
theorem Writable.append_ne (h : Writable doubles v) : compactChars v ++ s ≠ ']' :: t := by
  rcases h.forms with htoken | ⟨x, rfl⟩ | ⟨items, rfl, -⟩ | ⟨fields, rfl, -⟩
  · exact htoken.append_ne (by decide)
  all_goals
    intro heq
    exact absurd (List.cons.inj heq).1 (by decide)

/-- **A value is read** off its compact form, whatever follows, among the values of some doubles. -/
def Reads (doubles : Binary64 → Prop) (v : Value) : Prop :=
  ∀ w s t, Writable doubles w → Follows s → Follows t →
    compactChars v ++ s = compactChars w ++ t → v = w ∧ s = t

theorem Token.reads (h : Token v (compactChars v))
    (hdoubles : ∀ x y, v = .float x → doubles y → writeDouble x = writeDouble y → x = y) :
    Reads doubles v := by
  intro w s t hw hs ht heq
  -- Only a token can begin like a token; and where it ends is told by the mark that follows.
  rcases hw.forms with htoken | ⟨y, rfl⟩ | ⟨items, rfl, -⟩ | ⟨fields, rfl, -⟩
  · obtain ⟨hchars, hrest⟩ := eq_of_tokens h.isToken htoken.isToken hs ht heq
    refine ⟨h.unique (hchars ▸ htoken) fun x y hx hy => ?_, hrest⟩
    subst hy
    cases hw with
    | float hy => exact hdoubles x y hx hy
  · exact absurd heq (h.append_ne (by decide))
  · exact absurd heq (h.append_ne (by decide))
  · exact absurd heq (h.append_ne (by decide))

theorem reads_text (x : String) : Reads doubles (.text x) := by
  intro w s t hw _ _ heq
  rcases hw.forms with htoken | ⟨y, rfl⟩ | ⟨items, rfl, -⟩ | ⟨fields, rfl, -⟩
  · exact absurd heq.symm (htoken.append_ne (by decide))
  · obtain ⟨rfl, hrest⟩ := eq_of_quotedChars_append heq
    exact ⟨rfl, hrest⟩
  · exact absurd (List.cons.inj heq).1 (by decide)
  · exact absurd (List.cons.inj heq).1 (by decide)

/-! ### Lists and records -/

theorem reads_list (hitems : ∀ v ∈ items, Writable known v)
    (hreads : ∀ v ∈ items, Reads doubles v) : Reads doubles (.list items) := by
  intro w s t hw _ _ heq
  rcases hw.forms with htoken | ⟨y, rfl⟩ | ⟨items', rfl, hitems'⟩ | ⟨fields, rfl, -⟩
  · exact absurd heq.symm (htoken.append_ne (by decide))
  · exact absurd (List.cons.inj heq).1 (by decide)
  · simp only [compactChars, itemChars_eq, List.cons_append, List.append_assoc, List.nil_append,
      List.cons.injEq, true_and] at heq
    obtain ⟨rfl, hrest⟩ := Text.eq_of_separated (by decide)
      (fun s => follows_cons (c := ',') (s := s) (by decide))
      (fun s => follows_cons (by decide))
      (fun v hv w hw s t => hreads v hv w s t (hitems' w hw))
      (fun v hv s t => (hitems v hv).append_ne) (fun w hw s t => (hitems' w hw).append_ne) heq
    exact ⟨rfl, hrest⟩
  · exact absurd (List.cons.inj heq).1 (by decide)

theorem entryChars_append_ne (f : String × Value) : entryChars f ++ s ≠ '\x7d' :: t := by
  intro heq
  exact absurd (List.cons.inj heq).1 (by decide)

theorem reads_record (hreads : ∀ f ∈ fields, Reads doubles f.2) :
    Reads doubles (.record fields) := by
  intro w s t hw _ _ heq
  rcases hw.forms with htoken | ⟨y, rfl⟩ | ⟨items', rfl, -⟩ | ⟨fields', rfl, hfields'⟩
  · exact absurd heq.symm (htoken.append_ne (by decide))
  · exact absurd (List.cons.inj heq).1 (by decide)
  · exact absurd (List.cons.inj heq).1 (by decide)
  · have hentry : ∀ f ∈ fields, ∀ g ∈ fields', ∀ s t, Follows s → Follows t →
        entryChars f ++ s = entryChars g ++ t → f = g ∧ s = t := by
      intro f hf g hg s t hs ht h
      rw [entryChars, entryChars, List.append_assoc, List.append_assoc] at h
      obtain ⟨hkey, htail⟩ := eq_of_quotedChars_append h
      obtain ⟨hvalue, hrest⟩ :=
        hreads f hf g.2 s t (hfields' g hg) hs ht (List.cons.inj htail).2
      exact ⟨Prod.ext hkey hvalue, hrest⟩
    simp only [compactChars, fieldChars_eq, List.cons_append, List.append_assoc, List.nil_append,
      List.cons.injEq, true_and] at heq
    obtain ⟨rfl, hrest⟩ := Text.eq_of_separated (by decide)
      (fun s => follows_cons (c := ',') (s := s) (by decide))
      (fun s => follows_cons (by decide)) hentry
      (fun f _ s t => entryChars_append_ne f) (fun f _ s t => entryChars_append_ne f) heq
    exact ⟨rfl, hrest⟩

/-- **Unique readability**: a value is read off its compact form, if doubles of different values
have different texts. -/
theorem Writable.reads
    (hdoubles : ∀ x y, known x → doubles y → writeDouble x = writeDouble y → x = y)
    (h : Writable known v) : Reads doubles v := by
  induction h with
  | null => exact Token.reads (.word (by simp [plainWords, compactChars])) fun _ _ => nofun
  | bool b =>
    cases b <;> exact Token.reads (.word (by simp [plainWords, compactChars])) fun _ _ => nofun
  | int n => exact Token.reads (.whole n) fun _ _ => nofun
  | @float x hx =>
    refine Token.reads (.double x) fun x' y hx' hy => ?_
    obtain rfl := Value.float.inj hx'
    exact hdoubles x y hx hy
  | text x => exact reads_text x
  | list hitems ih => exact reads_list hitems ih
  | record _ ih => exact reads_record ih

/-- **The written text tells the value.** -/
theorem eq_of_write (hdoubles : ∀ x y, known x → doubles y → writeDouble x = writeDouble y → x = y)
    (hv : Writable known v) (hw : Writable doubles w) (h : write compact v = write compact w) :
    v = w := by
  have hchars := congrArg String.toList h
  rw [write, write, toList_writeAt, toList_writeAt] at hchars
  exact (hv.reads hdoubles w [] [] hw follows_nil follows_nil (by simpa using hchars)).1

end Reads

end RuleFlow.Json
