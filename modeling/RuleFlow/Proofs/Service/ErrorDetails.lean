import Mathlib.Data.List.Infix
import Mathlib.Data.List.TakeWhile
import Mathlib.Tactic.SplitIfs
import RuleFlow.Proofs.Value.OneShape
import RuleFlow.Service.Redaction

/-!
# What error details tell in production

In production, the details of errors are answered without the texts that tell how the service is
built. This file says which texts these are, what becomes of them, and where they are passed over.

## The gap

The texts in fields are looked at, in records inside records and in records inside lists. What
stands directly in a list is looked at only if it is a record: a text there is passed over, and so
is a list, with everything in it. The way of a circle and the place of a refused field are lists of
texts.

* `RuleFlow.Redaction.Telling` says which texts tell how the service is built, and
  `RuleFlow.Redaction.isTelling_iff` that it is these that are found.
* `RuleFlow.Redaction.Seen` says which texts of the details are looked at, and
  `RuleFlow.Redaction.Exposed` which are passed over. There are no others.
* `RuleFlow.Redaction.not_seen_detail` and `RuleFlow.Redaction.exposed_detail_iff` tell what becomes
  of both, by induction on the details.
* `RuleFlow.Redaction.details_in_production` is the result, and
  `RuleFlow.Redaction.details_leak` is a leak.
-/

namespace RuleFlow.Redaction

open Value (OneShape Within)

/-! ### Texts that tell how the service is built -/

section Telling

variable {wanted cs : List Char}

/-- **Characters read** as others that are in lower case, in whatever case they are. -/
def Reads (wanted cs : List Char) : Prop :=
  List.Forall₂ (fun p c => c.toNat ∈ Text.foldClass true p.toNat) wanted cs

/-- **The path of a source file**: a slash, the rest of the path, and the ending of a source
file. -/
def IsPath (cs : List Char) : Prop :=
  ∃ slash path ending, cs = slash :: path ++ ending ∧ (slash = '/' ∨ slash = '\\') ∧ path ≠ [] ∧
    (∀ c ∈ path, isPathChar c = true) ∧ Reads ".py".toList ending

/-- **A text tells how the service is built** if it holds the path of a source file, the name of the
place where programs run, or the first line of a trace. -/
def Telling (s : String) : Prop :=
  ∃ part, part <:+: s.toList ∧ (IsPath part ∨ Reads "<rule_sandbox>".toList part ∨
    Reads "traceback (most recent call last)".toList part)

theorem startsWith_iff : startsWith wanted cs = true ↔ ∃ part, part <+: cs ∧ Reads wanted part := by
  induction wanted generalizing cs with
  | nil =>
    simp only [startsWith, true_iff]
    exact ⟨[], List.nil_prefix, .nil⟩
  | cons p wanted ih =>
    cases cs with
    | nil =>
      simp only [startsWith, Bool.false_eq_true, false_iff]
      rintro ⟨part, hpart, hreads⟩
      obtain rfl := List.prefix_nil.mp hpart
      exact nomatch hreads
    | cons c rest =>
      rw [startsWith, Bool.and_eq_true, ih, List.contains_iff_mem]
      constructor
      · rintro ⟨hc, part, hpart, hreads⟩
        exact ⟨c :: part, List.cons_prefix_cons.mpr ⟨rfl, hpart⟩, .cons hc hreads⟩
      · rintro ⟨part, hpart, hreads⟩
        cases hreads with
        | cons hc hreads =>
          obtain ⟨rfl, hrest⟩ := List.cons_prefix_cons.mp hpart
          exact ⟨hc, _, hrest, hreads⟩

/-- **Characters occur in a text** where a part of it reads as they do. -/
theorem occurs_iff : occurs wanted cs = true ↔ ∃ part, part <:+: cs ∧ Reads wanted part := by
  induction cs with
  | nil =>
    rw [occurs, List.isEmpty_iff]
    constructor
    · rintro rfl
      exact ⟨[], List.nil_infix, .nil⟩
    · rintro ⟨part, hpart, hreads⟩
      obtain rfl := List.infix_nil.mp hpart
      exact List.forall₂_nil_right_iff.mp hreads
  | cons c rest ih =>
    rw [occurs, Bool.or_eq_true, startsWith_iff, ih]
    simp only [List.infix_cons_iff, or_and_right, exists_or]

/-- The ending of a source file starts with a dot, which no other character reads as. -/
theorem exists_dot_of_reads (h : Reads ".py".toList cs) : ∃ rest, cs = '.' :: rest := by
  have hdots : Text.foldClass true '.'.toNat = ['.'.toNat] := by decide +kernel
  have hending : ".py".toList = ['.', 'p', 'y'] := rfl
  rw [Reads, hending] at h
  cases h with
  | cons hdot hrest =>
    rw [hdots, List.mem_singleton, Char.toNat_inj] at hdot
    exact ⟨_, congrArg (· :: _) hdot⟩

theorem isPathChar_dot : isPathChar '.' = false := by decide +kernel

/-- **A path at the start**: no dot may stand in it, so it goes on as long as it can and its ending
is what comes next. -/
theorem startsWithPath_iff : startsWithPath cs = true ↔ ∃ part, part <+: cs ∧ IsPath part := by
  cases cs with
  | nil =>
    simp only [startsWithPath, Bool.false_eq_true, false_iff]
    rintro ⟨part, hpart, slash, path, ending, rfl, -⟩
    exact List.cons_ne_nil _ _ (List.prefix_nil.mp hpart)
  | cons c rest =>
    rw [startsWithPath, Bool.and_eq_true, Bool.and_eq_true, startsWith_iff]
    constructor
    · rintro ⟨⟨hslash, hpath⟩, ending, ⟨behind, hbehind⟩, hreads⟩
      have hrest : rest.takeWhile isPathChar ++ ending <+: rest :=
        ⟨behind, by rw [List.append_assoc, hbehind, List.takeWhile_append_dropWhile]⟩
      refine ⟨c :: (rest.takeWhile isPathChar ++ ending), List.cons_prefix_cons.mpr ⟨rfl, hrest⟩,
        c, _, ending, rfl, ?_, ?_, fun _ => List.mem_takeWhile_imp, hreads⟩
      · simpa using hslash
      · simpa using hpath
    · rintro ⟨part, hpart, slash, path, ending, rfl, hslash, hpath, hchars, hreads⟩
      obtain ⟨rfl, behind, rfl⟩ := List.cons_prefix_cons.mp hpart
      obtain ⟨ending, rfl⟩ := exists_dot_of_reads hreads
      -- The longest run of characters of a path is the path, for a dot comes behind it.
      have htake : (path ++ '.' :: ending ++ behind).takeWhile isPathChar = path := by
        rw [List.append_assoc, List.takeWhile_append_of_pos hchars, List.cons_append,
          List.takeWhile_cons_of_neg (by simp [isPathChar_dot]), List.append_nil]
      have hdrop : (path ++ '.' :: ending ++ behind).dropWhile isPathChar =
          '.' :: ending ++ behind := by
        rw [List.append_assoc, List.dropWhile_append_of_pos hchars, List.cons_append,
          List.dropWhile_cons_of_neg (by simp [isPathChar_dot])]
      refine ⟨⟨by simpa using hslash, ?_⟩, '.' :: ending, ?_, hreads⟩
      · change (!((path ++ '.' :: ending ++ behind).takeWhile isPathChar).isEmpty) = true
        rw [htake]
        simpa using hpath
      · change _ <+: (path ++ '.' :: ending ++ behind).dropWhile isPathChar
        rw [hdrop]
        exact List.prefix_append ..

theorem hasPath_iff : hasPath cs = true ↔ ∃ part, part <:+: cs ∧ IsPath part := by
  induction cs with
  | nil =>
    simp only [hasPath, Bool.false_eq_true, false_iff]
    rintro ⟨part, hpart, slash, path, ending, rfl, -⟩
    exact List.cons_ne_nil _ _ (List.infix_nil.mp hpart)
  | cons c rest ih =>
    rw [hasPath, Bool.or_eq_true, startsWithPath_iff, ih]
    simp only [List.infix_cons_iff, or_and_right, exists_or]

/-- **The texts that are found** are those that tell how the service is built. -/
theorem isTelling_iff {s : String} : isTelling s = true ↔ Telling s := by
  rw [isTelling, Bool.or_eq_true, Bool.or_eq_true, hasPath_iff, occurs_iff, occurs_iff, Telling]
  simp only [and_or_left, exists_or, or_assoc]

end Telling

/-! ### What is passed over -/

variable {s : String} {v : Value} {items : List Value} {fields : List (String × Value)}

/-- Whether a value is a record. -/
def isRecord : Value → Bool
  | .record _ => true
  | _ => false

/-- **A text is looked at** in a detail: the way to it leads through the values of fields and
through records in lists. -/
inductive Seen (s : String) : Value → Prop
  /-- It is the detail itself. -/
  | here : Seen s (.text s)
  /-- It is looked at in the value of a field. -/
  | field {fields : List (String × Value)} {key : String} {v : Value} :
      (key, v) ∈ fields → Seen s v → Seen s (.record fields)
  /-- It is looked at in a record that stands in a list. -/
  | record {items : List Value} {v : Value} :
      v ∈ items → isRecord v = true → Seen s v → Seen s (.list items)

/-- **A text is exposed** in a detail: somewhere on the way to it, an item of a list is no record.
Nothing is looked at from there on, however deep the text is. -/
inductive Exposed (s : String) : Value → Prop
  /-- It is exposed in the value of a field. -/
  | field {fields : List (String × Value)} {key : String} {v : Value} :
      (key, v) ∈ fields → Exposed s v → Exposed s (.record fields)
  /-- It is exposed in a record that stands in a list. -/
  | record {items : List Value} {v : Value} :
      v ∈ items → isRecord v = true → Exposed s v → Exposed s (.list items)
  /-- It stands in an item of a list that is no record. -/
  | item {items : List Value} {v : Value} :
      v ∈ items → isRecord v = false → Within (.text s) v → Exposed s (.list items)

theorem seen_iff_of_isScalar (hv : v.isScalar = true) : Seen s v ↔ v = .text s := by
  constructor
  · intro h
    cases h with
    | here => rfl
    | field => exact nomatch hv
    | record => exact nomatch hv
  · rintro rfl
    exact .here

theorem seen_record_iff : Seen s (.record fields) ↔ ∃ field ∈ fields, Seen s field.2 := by
  constructor
  · intro h
    cases h with
    | field hmem hseen => exact ⟨_, hmem, hseen⟩
  · rintro ⟨field, hmem, hseen⟩
    exact .field hmem hseen

theorem seen_list_iff : Seen s (.list items) ↔ ∃ v ∈ items, isRecord v = true ∧ Seen s v := by
  constructor
  · intro h
    cases h with
    | record hmem hrecord hseen => exact ⟨_, hmem, hrecord, hseen⟩
  · rintro ⟨v, hmem, hrecord, hseen⟩
    exact .record hmem hrecord hseen

theorem exposed_record_iff : Exposed s (.record fields) ↔ ∃ field ∈ fields, Exposed s field.2 := by
  constructor
  · intro h
    cases h with
    | field hmem hexposed => exact ⟨_, hmem, hexposed⟩
  · rintro ⟨field, hmem, hexposed⟩
    exact .field hmem hexposed

theorem exposed_list_iff : Exposed s (.list items) ↔
    ∃ v ∈ items, if isRecord v then Exposed s v else Within (.text s) v := by
  constructor
  · intro h
    cases h with
    | record hmem hrecord hexposed => exact ⟨_, hmem, by rwa [if_pos hrecord]⟩
    | item hmem hrecord hwithin => exact ⟨_, hmem, by rwa [if_neg (by simp [hrecord])]⟩
  · rintro ⟨v, hmem, h⟩
    split_ifs at h with hrecord
    · exact .record hmem hrecord h
    · exact .item hmem (by simpa using hrecord) h

theorem not_exposed_of_isScalar (hv : v.isScalar = true) : ¬Exposed s v := by
  intro h
  cases h <;> exact nomatch hv

/-- **Every text of a detail** is looked at or exposed. -/
theorem within_iff_seen_or_exposed : Within (.text s) v ↔ Seen s v ∨ Exposed s v := by
  induction v using Value.induct with
  | scalar v hv =>
    rw [Value.within_iff_of_isScalar hv, seen_iff_of_isScalar hv,
      or_iff_left (not_exposed_of_isScalar hv), eq_comm]
  | list items ih =>
    rw [Value.within_list_iff, seen_list_iff, exposed_list_iff, or_iff_right nofun, ← exists_or]
    refine exists_congr fun v => ?_
    rw [← and_or_left]
    refine and_congr_right fun hv => ?_
    split_ifs with hrecord
    · rw [and_iff_right hrecord]
      exact ih v hv
    · simp [hrecord]
  | record fields ih =>
    rw [Value.within_record_iff, seen_record_iff, exposed_record_iff, or_iff_right nofun,
      ← exists_or]
    refine exists_congr fun field => ?_
    rw [← and_or_left]
    exact and_congr_right fun hfield => ih field.1 field.2 hfield

/-! ### What becomes of details -/

/-- What becomes of an item of a list. -/
def detailItem (v : Value) : Value :=
  if isRecord v then detail v else v

theorem detail_list (items : List Value) :
    detail (.list items) = .list (items.map detailItem) := by
  have hitems : ∀ items : List Value, detailItems items = items.map detailItem := by
    intro items
    induction items with
    | nil => rfl
    | cons v rest ih =>
      rw [List.map_cons, ← ih]
      cases v <;> rfl
  rw [detail, hitems]

theorem detail_record (fields : List (String × Value)) :
    detail (.record fields) = .record (fields.map fun field => (field.1, detail field.2)) := by
  have hfields : ∀ fields : List (String × Value),
      detailFields fields = fields.map fun field => (field.1, detail field.2) := by
    intro fields
    induction fields with
    | nil => rfl
    | cons field rest ih => rw [detailFields, ih, List.map_cons]
  rw [detail, hfields]

/-- **A scalar is kept**, unless it is a text that tells how the service is built: this one is
hidden. -/
inductive Masked : Value → Value → Prop
  /-- The scalar is kept. -/
  | kept (v : Value) : Masked v v
  /-- The text is hidden. -/
  | hidden {s : String} : Telling s → Masked (.text s) (.text detailMark)

/-- What stands in the place of a text tells nothing. -/
theorem not_telling_detailMark : ¬Telling detailMark := by
  rw [← isTelling_iff]
  decide +kernel

/-- **A scalar** is a text that tells how the service is built, and is hidden, or it is kept. -/
theorem detail_of_isScalar (hv : v.isScalar = true) :
    (∃ s, v = .text s ∧ Telling s ∧ detail v = .text detailMark) ∨
      (∀ s, v = .text s → ¬Telling s) ∧ detail v = v := by
  cases v with
  | text s =>
    rw [detail]
    split_ifs with htelling
    · exact .inl ⟨s, rfl, isTelling_iff.mp htelling, rfl⟩
    · refine .inr ⟨?_, rfl⟩
      rintro _ ⟨⟩
      exact mt isTelling_iff.mpr htelling
  | list => exact nomatch hv
  | record => exact nomatch hv
  | _ => exact .inr ⟨nofun, rfl⟩

theorem isRecord_detail (v : Value) : isRecord (detail v) = isRecord v := by
  cases v <;> rfl

theorem isRecord_detailItem (v : Value) : isRecord (detailItem v) = isRecord v := by
  rw [detailItem]
  split_ifs
  · exact isRecord_detail v
  · rfl

/-- **No text that tells anything is left** where texts are looked at. -/
theorem not_seen_detail (hs : Telling s) (v : Value) : ¬Seen s (detail v) := by
  induction v using Value.induct with
  | scalar v hv =>
    rcases detail_of_isScalar hv with ⟨t, -, -, hdetail⟩ | ⟨hkept, hdetail⟩
    · rw [hdetail, seen_iff_of_isScalar rfl]
      rintro ⟨⟩
      exact not_telling_detailMark hs
    · rw [hdetail, seen_iff_of_isScalar hv]
      exact fun htext => hkept s htext hs
  | list items ih =>
    rw [detail_list, seen_list_iff]
    rintro ⟨answered, hmem, hrecord, hseen⟩
    obtain ⟨v, hv, rfl⟩ := List.mem_map.mp hmem
    rw [isRecord_detailItem] at hrecord
    rw [detailItem, if_pos hrecord] at hseen
    exact ih v hv hseen
  | record fields ih =>
    rw [detail_record, seen_record_iff]
    rintro ⟨answered, hmem, hseen⟩
    obtain ⟨field, hfield, rfl⟩ := List.mem_map.mp hmem
    exact ih field.1 field.2 hfield hseen

/-- **Texts that are exposed** stay so. -/
theorem exposed_detail_iff : Exposed s (detail v) ↔ Exposed s v := by
  induction v using Value.induct with
  | scalar v hv =>
    refine iff_of_false (not_exposed_of_isScalar ?_) (not_exposed_of_isScalar hv)
    rcases detail_of_isScalar hv with ⟨t, -, -, hdetail⟩ | ⟨-, hdetail⟩
    · rw [hdetail]
      rfl
    · rw [hdetail]
      exact hv
  | list items ih =>
    rw [detail_list, exposed_list_iff, exposed_list_iff]
    simp only [List.mem_map, exists_exists_and_eq_and, isRecord_detailItem]
    refine exists_congr fun v => and_congr_right fun hv => ?_
    rw [detailItem]
    split_ifs
    · exact ih v hv
    · rfl
  | record fields ih =>
    rw [detail_record, exposed_record_iff, exposed_record_iff]
    simp only [List.mem_map, exists_exists_and_eq_and]
    exact exists_congr fun field => and_congr_right fun hfield => ih field.1 field.2 hfield

/-- **The telling texts that are left** are those that were exposed. -/
theorem within_detail_iff (hs : Telling s) : Within (.text s) (detail v) ↔ Exposed s v := by
  rw [within_iff_seen_or_exposed, or_iff_right (not_seen_detail hs v), exposed_detail_iff]

/-- **Details keep their shape**, and everything but the texts that are hidden. -/
theorem oneShape_detail (v : Value) : OneShape (fun _ => False) Masked v (detail v) := by
  induction v using Value.induct with
  | scalar v hv =>
    refine .scalar hv ?_
    rcases detail_of_isScalar hv with ⟨s, rfl, htelling, hdetail⟩ | ⟨-, hdetail⟩
    · rw [hdetail]
      exact .hidden htelling
    · rw [hdetail]
      exact .kept v
  | list items ih =>
    rw [detail_list, OneShape.list_iff]
    refine ⟨_, rfl, List.forall₂_map_right_iff.mpr (List.forall₂_same.mpr fun v hv => ?_)⟩
    rw [detailItem]
    split_ifs
    · exact ih v hv
    · exact .refl .kept v
  | record fields ih =>
    rw [detail_record, OneShape.record_iff]
    refine ⟨_, rfl, List.forall₂_map_right_iff.mpr (List.forall₂_same.mpr fun field hfield => ?_)⟩
    exact ⟨rfl, fun _ => ih field.1 field.2 hfield⟩

/-- **Hiding texts twice** is hiding them once. -/
theorem detail_detail (v : Value) : detail (detail v) = detail v := by
  induction v using Value.induct with
  | scalar v hv =>
    rcases detail_of_isScalar hv with ⟨s, -, -, hdetail⟩ | ⟨-, hdetail⟩
    · rw [hdetail, detail, if_neg (mt isTelling_iff.mp not_telling_detailMark)]
    · rw [hdetail, hdetail]
  | list items ih =>
    rw [detail_list, detail_list, List.map_map]
    refine congrArg Value.list (List.map_congr_left fun v hv => ?_)
    cases v with
    | record fields =>
      have hfields := ih (.record fields) hv
      rw [detail_record] at hfields
      simpa [detailItem, isRecord, detail_record] using hfields
    | _ => rfl
  | record fields ih =>
    rw [detail_record, detail_record, List.map_map]
    refine congrArg Value.record (List.map_congr_left fun field hfield => ?_)
    exact congrArg (Prod.mk field.1) (ih field.1 field.2 hfield)

/-! ### The result -/

/-- **Error details in production.** A text that tells how the service is built is left in the
details that are answered if and only if it was exposed, so where no such text was exposed none is
left; and none is left where texts are looked at. Everything else stays: details keep their shape
and all their scalars but such texts, and redacting them again changes nothing. -/
theorem details_in_production (given : Keyed Value) :
    (∀ s, Telling s →
        (Within (.text s) (.record (details .production given)) ↔ Exposed s (.record given)) ∧
          ¬Seen s (.record (details .production given))) ∧
      OneShape (fun _ => False) Masked (.record given) (.record (details .production given)) ∧
      details .production (details .production given) = details .production given := by
  have hdetails : ∀ given : Keyed Value,
      Value.record (details .production given) = detail (.record given) := fun _ => rfl
  refine ⟨fun s hs => ?_, ?_, Value.record.inj ?_⟩
  · rw [hdetails]
    exact ⟨within_detail_iff hs, not_seen_detail hs _⟩
  · rw [hdetails]
    exact oneShape_detail (.record given)
  · rw [hdetails, hdetails, detail_detail]

/-- **A leak**: the path of a source file that stands in a list is answered. -/
theorem details_leak :
    Telling "/srv/app/rule_engine/main.py" ∧
      Within (.text "/srv/app/rule_engine/main.py")
        (.record (details .production [("path", .list [.text "/srv/app/rule_engine/main.py"])])) :=
  ⟨isTelling_iff.mp (by decide +kernel), .field List.mem_cons_self (.item List.mem_cons_self .here)⟩

end RuleFlow.Redaction
