import RuleFlow.Proofs.Calendar.IsoText
import RuleFlow.Proofs.Number.WholeText
import RuleFlow.Proofs.Text.Delimited
import RuleFlow.Program.Text

/-!
# Literals tell their values

A value stands in a program as an expression. This file shows that different values stand there as
different expressions, so that each literal of a program stands for one value only.

## Why it does

The first characters of a literal tell the kind of the value, and a literal tells where it ends:
a text by its quotes, a whole number by the first character that is neither a digit nor a sign, a
list or record by its bracket. Whether different doubles have different literals is left open, so
the values are those without doubles in them.

* `RuleFlow.Value.DoubleFree` are these values.
* `RuleFlow.Value.kindOf_literalChars`: the first characters tell the kind.
* `RuleFlow.Value.DoubleFree.read`: a literal is read in one way, whatever follows.
* `RuleFlow.Value.literalText_eq_iff` is the result.
-/

namespace RuleFlow.Value

open Number Calendar

/-- **A value without doubles**, neither itself nor inside it. -/
inductive DoubleFree : Value → Prop
  /-- Nothing. -/
  | null : DoubleFree .null
  /-- A truth value. -/
  | bool (b : Bool) : DoubleFree (.bool b)
  /-- A whole number. -/
  | int (n : Int) : DoubleFree (.int n)
  /-- A decimal. -/
  | decimal (d : Decimal) : DoubleFree (.decimal d)
  /-- A text. -/
  | text (s : String) : DoubleFree (.text s)
  /-- A date. -/
  | day (d : Date) : DoubleFree (.temporal (.day d))
  /-- A moment. -/
  | moment (m : Moment) : DoubleFree (.temporal (.moment m))
  /-- A list. -/
  | list {items : List Value} : (∀ v ∈ items, DoubleFree v) → DoubleFree (.list items)
  /-- A record. -/
  | record {fields : List (String × Value)} : (∀ f ∈ fields, DoubleFree f.2) →
      DoubleFree (.record fields)

variable {v w : Value} {s t : List Char} {items items' : List Value}
  {fields fields' : List (String × Value)}

/-! ### The characters of literals -/

/-- **The characters of a literal.** -/
def literalChars (v : Value) : List Char :=
  v.literalText.toList

/-- The characters of a field: a key in quotes, and a literal. -/
def fieldChars (f : String × Value) : List Char :=
  Text.quoteChars f.1.toList ++ ':' :: ' ' :: f.2.literalChars

/-- The characters of a call on a text. -/
def callChars (function : String) (argument : String) : List Char :=
  function.toList ++ '(' :: (Text.quoteChars argument.toList ++ [')'])

/-- A whole number begins with a digit or a sign. -/
theorem exists_literalChars_int (n : Int) :
    ∃ c rest, literalChars (.int n) = c :: rest ∧ IsWholeChar c := by
  obtain ⟨c, rest, hchars⟩ := List.exists_cons_of_ne_nil (toString_ne_nil n)
  exact ⟨c, rest, hchars, isWholeChar_of_mem_toString (hchars ▸ List.mem_cons_self)⟩

theorem literalChars_text (x : String) :
    literalChars (.text x) = Text.quoteChars x.toList :=
  String.toList_ofList

theorem literalChars_decimal (d : Decimal) :
    literalChars (.decimal d) = callChars "Decimal" d.toText := by
  change ("Decimal(" ++ Text.quote d.toText ++ ")").toList = _
  simp [callChars, Text.quote]

theorem literalChars_day (d : Date) :
    literalChars (.temporal (.day d)) = callChars "date.fromisoformat" d.isoText := by
  change ("date.fromisoformat(" ++ Text.quote d.isoText ++ ")").toList = _
  simp [callChars, Text.quote]

theorem literalChars_moment (m : Moment) :
    literalChars (.temporal (.moment m)) = callChars "datetime.fromisoformat" m.isoText := by
  change ("datetime.fromisoformat(" ++ Text.quote m.isoText ++ ")").toList = _
  simp [callChars, Text.quote]

theorem literalItems_eq_map (items : List Value) :
    literalItems items = items.map literalText := by
  induction items with
  | nil => rfl
  | cons v rest ih => rw [literalItems, ih, List.map_cons]

theorem literalChars_list (items : List Value) :
    literalChars (.list items) =
      '[' :: ([',', ' '].intercalate (items.map literalChars) ++ [']']) := by
  change ("[" ++ ", ".intercalate (literalItems items) ++ "]").toList = _
  rw [literalItems_eq_map]
  simp [String.toList_intercalate, Function.comp_def]
  rfl

theorem toList_literalFields (fields : List (String × Value)) :
    (literalFields fields).map String.toList = fields.map fieldChars := by
  induction fields with
  | nil => rfl
  | cons f rest ih =>
    obtain ⟨key, v⟩ := f
    rw [literalFields, List.map_cons, List.map_cons, ih]
    simp [fieldChars, literalChars, Text.quote]

theorem literalChars_record (fields : List (String × Value)) :
    literalChars (.record fields) =
      '\x7b' :: ([',', ' '].intercalate (fields.map fieldChars) ++ ['\x7d']) := by
  change ("\x7b" ++ ", ".intercalate (literalFields fields) ++ "\x7d").toList = _
  rw [← toList_literalFields]
  simp [String.toList_intercalate]

/-! ### Kinds -/

/-- How literals begin, and the kind of the value. A moment begins as a date does, and stands
first. -/
def openings : List (String × String) :=
  [("None", "NoneType"), ("True", "bool"), ("False", "bool"), ("Decimal", "Decimal"),
    ("datetime", "datetime"), ("date", "date"), ("'", "str"), ("\"", "str"), ("[", "list"),
    ("\x7b", "dict")]

/-- **The kind that the first characters tell**: a whole number, if they tell no other. -/
def kindOf (cs : List Char) : String :=
  ((openings.find? fun p => p.1.toList.isPrefixOf cs).map Prod.snd).getD "int"

theorem kindOf_of_isWholeChar {c : Char} (hc : IsWholeChar c) (s : List Char) :
    kindOf (c :: s) = "int" := by
  have hopening : ∀ p ∈ openings, p.1.toList ≠ [] ∧ ∀ d ∈ p.1.toList.head?, ¬IsWholeChar d := by
    simp [openings, IsWholeChar]
  have hnone : openings.find? (fun p => p.1.toList.isPrefixOf (c :: s)) = none := by
    refine List.find?_eq_none.mpr fun p hp hprefix => ?_
    obtain ⟨hne, hhead⟩ := hopening p hp
    obtain ⟨d, ds, hchars⟩ := List.exists_cons_of_ne_nil hne
    rw [hchars] at hprefix hhead
    obtain ⟨rfl, -⟩ := List.cons_prefix_cons.mp (List.isPrefixOf_iff_prefix.mp hprefix)
    exact hhead d rfl hc
  rw [kindOf, hnone]
  rfl

/-- **The first characters of a literal tell the kind** of the value. -/
theorem kindOf_literalChars (hv : v.DoubleFree) (s : List Char) :
    kindOf (v.literalChars ++ s) = v.className := by
  cases hv with
  | null => rfl
  | bool b => cases b <;> rfl
  | int n =>
    obtain ⟨c, rest, hchars, hc⟩ := exists_literalChars_int n
    rw [hchars]
    exact kindOf_of_isWholeChar hc _
  | decimal d => rw [literalChars_decimal]; rfl
  | text x =>
    rw [literalChars_text, Text.quoteChars]
    rcases Text.quoteMark_cases x.toList with hmark | hmark <;> rw [hmark] <;> rfl
  | day d => rw [literalChars_day]; rfl
  | moment m => rw [literalChars_moment]; rfl
  | list _ => rw [literalChars_list]; rfl
  | record _ => rw [literalChars_record]; rfl

/-- Literals of different kinds differ from their first characters on. -/
theorem className_eq_of_literalChars (hv : v.DoubleFree) (hw : w.DoubleFree)
    (h : v.literalChars ++ s = w.literalChars ++ t) : v.className = w.className := by
  rw [← kindOf_literalChars hv s, ← kindOf_literalChars hw t, h]

/-! ### Reading -/

/-- What can follow a literal: no digit and no sign, with which a whole number would go on. -/
def Follows (s : List Char) : Prop :=
  ∀ c ∈ s.head?, ¬IsWholeChar c

/-- **A value is read off its literal**: a text that begins with it begins with no other literal,
and goes on as after it. -/
def Read (v : Value) : Prop :=
  ∀ w s t, DoubleFree w → Follows s → Follows t →
    v.literalChars ++ s = w.literalChars ++ t → v = w ∧ s = t

theorem follows_cons {c : Char} (hc : ¬IsWholeChar c) (s : List Char) : Follows (c :: s) := by
  rintro d hd
  obtain rfl : c = d := Option.some.inj hd
  exact hc

/-- A call on a text tells the text. -/
theorem eq_of_callChars {function a b : String}
    (h : callChars function a ++ s = callChars function b ++ t) : a = b ∧ s = t := by
  rw [callChars, callChars, List.append_assoc, List.append_assoc, List.append_cancel_left_eq,
    List.cons_append, List.cons_append, List.append_assoc, List.append_assoc] at h
  obtain ⟨hargument, htail⟩ := Text.eq_of_quoteChars (List.cons.inj h).2
  exact ⟨String.toList_inj.mp hargument, (List.cons.inj htail).2⟩

/-- No literal begins with the bracket that closes a list. -/
theorem literalChars_append_ne_bracket (hv : v.DoubleFree) :
    v.literalChars ++ s ≠ ']' :: t := by
  intro h
  have hkind : v.className = "int" := by
    rw [← kindOf_literalChars hv s, h]
    rfl
  cases hv with
  | int n =>
    obtain ⟨c, rest, hchars, hc⟩ := exists_literalChars_int n
    rw [hchars] at h
    obtain rfl : c = ']' := (List.cons.inj h).1
    exact absurd hc (by decide)
  | _ => simp [className] at hkind

/-- No field begins with the bracket that closes a record. -/
theorem fieldChars_append_ne_bracket (f : String × Value) : fieldChars f ++ s ≠ '\x7d' :: t := by
  intro h
  have hmark : Text.quoteMark f.1.toList = '\x7d' := (List.cons.inj h).1
  rcases Text.quoteMark_cases f.1.toList with hquote | hquote <;>
    exact absurd (hquote.symm.trans hmark) (by decide)

theorem read_null : Read .null := by
  intro w s t hw hs ht h
  have hkind := className_eq_of_literalChars .null hw h
  cases hw with
  | null => exact ⟨rfl, List.append_cancel_left h⟩
  | _ => simp [className] at hkind

theorem read_bool (b : Bool) : Read (.bool b) := by
  intro w s t hw hs ht h
  have hkind := className_eq_of_literalChars (.bool b) hw h
  cases hw with
  | bool c =>
    -- The literals of the two truth values begin differently.
    obtain rfl : b = c := by
      cases b <;> cases c
      · rfl
      · have hfirst : 'F' = 'T' := (List.cons.inj h).1
        exact absurd hfirst (by decide)
      · have hfirst : 'T' = 'F' := (List.cons.inj h).1
        exact absurd hfirst (by decide)
      · rfl
    exact ⟨rfl, List.append_cancel_left h⟩
  | _ => simp [className] at hkind

theorem read_text (x : String) : Read (.text x) := by
  intro w s t hw hs ht h
  have hkind := className_eq_of_literalChars (.text x) hw h
  cases hw with
  | text y =>
    rw [literalChars_text, literalChars_text] at h
    obtain ⟨hchars, hrest⟩ := Text.eq_of_quoteChars h
    exact ⟨congrArg Value.text (String.toList_inj.mp hchars), hrest⟩
  | _ => simp [className] at hkind

theorem read_decimal (d : Decimal) : Read (.decimal d) := by
  intro w s t hw hs ht h
  have hkind := className_eq_of_literalChars (.decimal d) hw h
  cases hw with
  | decimal e =>
    rw [literalChars_decimal, literalChars_decimal] at h
    obtain ⟨htext, hrest⟩ := eq_of_callChars h
    have hchars : d.toChars = e.toChars := String.ofList_injective htext
    exact ⟨congrArg Value.decimal (Decimal.toChars_injective hchars), hrest⟩
  | _ => simp [className] at hkind

theorem read_day (d : Date) : Read (.temporal (.day d)) := by
  intro w s t hw hs ht h
  have hkind := className_eq_of_literalChars (.day d) hw h
  cases hw with
  | day e =>
    rw [literalChars_day, literalChars_day] at h
    obtain ⟨htext, hrest⟩ := eq_of_callChars h
    exact ⟨congrArg Value.temporal (Temporal.isoText_injective htext), hrest⟩
  | _ => simp [className] at hkind

theorem read_moment (m : Moment) : Read (.temporal (.moment m)) := by
  intro w s t hw hs ht h
  have hkind := className_eq_of_literalChars (.moment m) hw h
  cases hw with
  | moment m' =>
    rw [literalChars_moment, literalChars_moment] at h
    obtain ⟨htext, hrest⟩ := eq_of_callChars h
    exact ⟨congrArg Value.temporal (Temporal.isoText_injective htext), hrest⟩
  | _ => simp [className] at hkind

theorem read_int (n : Int) : Read (.int n) := by
  intro w s t hw hs ht h
  have hkind := className_eq_of_literalChars (.int n) hw h
  cases hw with
  | int m =>
    -- Nothing in a number tells its end: what follows does.
    obtain ⟨hchars, hrest⟩ := Text.eq_of_words (fun c => isWholeChar_of_mem_toString)
      (fun c => isWholeChar_of_mem_toString) hs ht h
    exact ⟨congrArg Value.int (eq_of_toString hchars), hrest⟩
  | _ => simp [className] at hkind

theorem read_list (hitems : ∀ v ∈ items, DoubleFree v) (ih : ∀ v ∈ items, Read v) :
    Read (.list items) := by
  intro w s t hw hs ht h
  have hkind := className_eq_of_literalChars (.list hitems) hw h
  cases hw with
  | @list items' hitems' =>
    simp only [literalChars_list, List.cons_append, List.append_assoc, List.nil_append,
      List.cons.injEq, true_and] at h
    obtain ⟨rfl, hrest⟩ := Text.eq_of_separated (by decide)
      (follows_cons (c := ',') (by decide)) (follows_cons (by decide))
      (fun v hv w hw s t => ih v hv w s t (hitems' w hw))
      (fun v hv s t => literalChars_append_ne_bracket (hitems v hv))
      (fun w hw s t => literalChars_append_ne_bracket (hitems' w hw)) h
    exact ⟨rfl, hrest⟩
  | _ => simp [className] at hkind

theorem read_record (hfields : ∀ f ∈ fields, DoubleFree f.2) (ih : ∀ f ∈ fields, Read f.2) :
    Read (.record fields) := by
  intro w s t hw hs ht h
  have hkind := className_eq_of_literalChars (.record hfields) hw h
  cases hw with
  | @record fields' hfields' =>
    have hfield : ∀ f ∈ fields, ∀ g ∈ fields', ∀ s t, Follows s → Follows t →
        fieldChars f ++ s = fieldChars g ++ t → f = g ∧ s = t := by
      intro f hf g hg s t hs ht h
      rw [fieldChars, fieldChars, List.append_assoc, List.append_assoc] at h
      obtain ⟨hkey, htail⟩ := Text.eq_of_quoteChars h
      obtain ⟨hvalue, hrest⟩ := ih f hf g.2 s t (hfields' g hg) hs ht
        (List.cons.inj (List.cons.inj htail).2).2
      exact ⟨Prod.ext (String.toList_inj.mp hkey) hvalue, hrest⟩
    simp only [literalChars_record, List.cons_append, List.append_assoc, List.nil_append,
      List.cons.injEq, true_and] at h
    obtain ⟨rfl, hrest⟩ := Text.eq_of_separated (by decide)
      (follows_cons (c := ',') (by decide)) (follows_cons (by decide)) hfield
      (fun f _ s t => fieldChars_append_ne_bracket f)
      (fun f _ s t => fieldChars_append_ne_bracket f) h
    exact ⟨rfl, hrest⟩
  | _ => simp [className] at hkind

/-- **Every value without doubles is read off its literal**, whatever follows. -/
theorem DoubleFree.read (hv : v.DoubleFree) : Read v := by
  induction hv with
  | null => exact read_null
  | bool b => exact read_bool b
  | int n => exact read_int n
  | decimal d => exact read_decimal d
  | text x => exact read_text x
  | day d => exact read_day d
  | moment m => exact read_moment m
  | list hitems ih => exact read_list hitems ih
  | record hfields ih => exact read_record hfields ih

/-- **Different values have different literals**: two values without doubles are written alike
only if they are the same, of one kind, with the same digits, exponents and offsets, and with
their items and fields in the same order. -/
theorem literalText_eq_iff (hv : v.DoubleFree) (hw : w.DoubleFree) :
    v.literalText = w.literalText ↔ v = w := by
  constructor
  · intro h
    have hend : Follows [] := fun c hc => absurd hc (Option.not_mem_none c)
    have hchars : v.literalChars ++ [] = w.literalChars ++ [] := by
      rw [literalChars, literalChars, h]
    exact (hv.read w [] [] hw hend hend hchars).1
  · rintro rfl
    rfl

/-- A decimal and the text of its literal tell their places in a list that a record holds. -/
theorem literalText_swap_ne :
    DoubleFree (.record [("it's", .list [.decimal (.finite false 150 (-2)),
      .text "Decimal('1.50')"])]) ∧
    DoubleFree (.record [("it's", .list [.text "Decimal('1.50')",
      .decimal (.finite false 150 (-2))])]) ∧
    literalText (.record [("it's", .list [.decimal (.finite false 150 (-2)),
      .text "Decimal('1.50')"])]) ≠
    literalText (.record [("it's", .list [.text "Decimal('1.50')",
      .decimal (.finite false 150 (-2))])]) := by
  have hfirst : DoubleFree (.record [("it's", .list [.decimal (.finite false 150 (-2)),
      .text "Decimal('1.50')"])]) := by
    refine .record (List.forall_mem_singleton.mpr (.list ?_))
    exact List.forall_mem_cons.mpr ⟨.decimal _, List.forall_mem_singleton.mpr (.text _)⟩
  have hsecond : DoubleFree (.record [("it's", .list [.text "Decimal('1.50')",
      .decimal (.finite false 150 (-2))])]) := by
    refine .record (List.forall_mem_singleton.mpr (.list ?_))
    exact List.forall_mem_cons.mpr ⟨.text _, List.forall_mem_singleton.mpr (.decimal _)⟩
  refine ⟨hfirst, hsecond, fun h => ?_⟩
  have heq := (literalText_eq_iff hfirst hsecond).mp h
  simp at heq

end RuleFlow.Value
