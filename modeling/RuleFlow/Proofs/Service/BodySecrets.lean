import Mathlib.Tactic.SplitIfs
import RuleFlow.Proofs.Value.OneShape
import RuleFlow.Service.Redaction

/-!
# Logged documents keep secrets

Documents are logged without their secrets, which are the values of fields of certain names. This
file shows that the log tells nothing about them: documents that differ in secrets alone are logged
alike, whatever the secrets are and wherever they stand. All the rest is logged as it is.

* `RuleFlow.Redaction.ApartFromSecrets` says of two documents that they differ in secrets alone.
* `RuleFlow.Redaction.apartFromSecrets_iff` says that these are the documents that are logged alike,
  by induction on the first of them.
* `RuleFlow.Redaction.isSecret_of_spells`: the names of secrets may be in any case.
* `RuleFlow.Redaction.body_keeps_secrets` is the result.
-/

namespace RuleFlow.Redaction

open Value (OneShape Within)

variable {v w : Value} {items items' : List Value} {fields fields' : List (String × Value)}

/-! ### Names of secrets -/

/-- **A text spells a name**, its letters being in lower or in upper case. -/
def Spells (text name : String) : Prop :=
  List.Forall₂ (fun c n => c = n ∨ c = n.toUpper) text.toList name.toList

/-- The characters that the names of secrets consist of. -/
def nameChars : List Char :=
  "_abcdefghijklmnopqrstuvwxyz".toList

theorem lowerChar_eq {c n : Char} (hn : n ∈ nameChars) (h : c = n ∨ c = n.toUpper) :
    c.toNat ≠ 931 ∧ Text.lowerChar c = [n] := by
  have hchars : (nameChars.all fun n => [n, n.toUpper].all fun c =>
      decide (c.toNat ≠ 931 ∧ Text.lowerChar c = [n])) = true := by
    decide +kernel
  have hc : c ∈ [n, n.toUpper] := by simpa using h
  exact of_decide_eq_true (List.all_eq_true.mp (List.all_eq_true.mp hchars n hn) c hc)

/-- **Lower case** gives a name back that a text spells. -/
theorem lowerCharsAfter_eq {cs ns : List Char} (hns : ∀ n ∈ ns, n ∈ nameChars)
    (h : List.Forall₂ (fun c n => c = n ∨ c = n.toUpper) cs ns) (before : List Char) :
    Text.lowerCharsAfter before cs = ns := by
  induction h generalizing before with
  | nil => rfl
  | @cons c n cs ns hc _ ih =>
    obtain ⟨hn, hrest⟩ := List.forall_mem_cons.mp hns
    obtain ⟨hsigma, hlower⟩ := lowerChar_eq hn hc
    rw [Text.lowerCharsAfter, if_neg hsigma, hlower, ih hrest]
    rfl

/-- **The names of secrets may be in any case.** -/
theorem isSecret_of_spells {key name : String} (hname : name ∈ secretFields)
    (h : Spells key name) : isSecret key = true := by
  have hall : (secretFields.all fun name => name.toList.all nameChars.contains) = true := by
    decide +kernel
  have hchars : ∀ n ∈ name.toList, n ∈ nameChars := fun n hn =>
    List.contains_iff_mem.mp (List.all_eq_true.mp (List.all_eq_true.mp hall name hname) n hn)
  have hlower : Text.lower key = name := by
    rw [Text.lower, Text.lowerChars, lowerCharsAfter_eq hchars h, String.ofList_toList]
  rw [isSecret, hlower, List.contains_iff_mem]
  exact hname

/-! ### What is logged -/

theorem body_of_isScalar (h : v.isScalar = true) : body v = v := by
  cases v with
  | list => exact nomatch h
  | record => exact nomatch h
  | _ => rfl

theorem body_list (items : List Value) : body (.list items) = .list (items.map body) := by
  have hitems : ∀ items : List Value, bodyItems items = items.map body := by
    intro items
    induction items with
    | nil => rfl
    | cons v rest ih => rw [bodyItems, ih, List.map_cons]
  rw [body, hitems]

/-- A field as it is logged. -/
def bodyField (field : String × Value) : String × Value :=
  (field.1, if isSecret field.1 then .text mark else body field.2)

theorem body_record (fields : List (String × Value)) :
    body (.record fields) = .record (fields.map bodyField) := by
  have hfields : ∀ fields : List (String × Value), bodyFields fields = fields.map bodyField := by
    intro fields
    induction fields with
    | nil => rfl
    | cons field rest ih =>
      rw [bodyFields, ih, List.map_cons]
      rfl
  rw [body, hfields]

/-- **Two documents differ in secrets alone**: they are of one shape and have the same scalars, what
stands behind the names of secrets aside. -/
def ApartFromSecrets : Value → Value → Prop :=
  OneShape (fun key => isSecret key = true) Eq

/-- Nothing but a scalar itself is logged as that scalar. -/
theorem eq_body_iff (hv : v.isScalar = true) : v = body w ↔ v = w := by
  cases w with
  | list items =>
    rw [body_list]
    refine iff_of_false ?_ ?_
    · rintro rfl
      exact nomatch hv
    · rintro rfl
      exact nomatch hv
  | record fields =>
    rw [body_record]
    refine iff_of_false ?_ ?_
    · rintro rfl
      exact nomatch hv
    · rintro rfl
      exact nomatch hv
  | _ => rw [body_of_isScalar rfl]

theorem list_eq_body_iff : .list items = body w ↔ ∃ items', w = .list items' ∧
    items = items'.map body := by
  constructor
  · intro h
    cases w with
    | list items' =>
      rw [body_list] at h
      exact ⟨items', rfl, Value.list.inj h⟩
    | record fields' =>
      rw [body_record] at h
      exact nomatch h
    | _ => exact nomatch h
  · rintro ⟨items', rfl, rfl⟩
    exact (body_list items').symm

theorem record_eq_body_iff : .record fields = body w ↔ ∃ fields', w = .record fields' ∧
    fields = fields'.map bodyField := by
  constructor
  · intro h
    cases w with
    | list items' =>
      rw [body_list] at h
      exact nomatch h
    | record fields' =>
      rw [body_record] at h
      exact ⟨fields', rfl, Value.record.inj h⟩
    | _ => exact nomatch h
  · rintro ⟨fields', rfl, rfl⟩
    exact (body_record fields').symm

/-- **Fields are logged alike** if they have one name and, unless it is that of a secret, their
values are logged alike. -/
theorem bodyField_eq_iff {field field' : String × Value} : bodyField field = bodyField field' ↔
    field.1 = field'.1 ∧ (¬isSecret field.1 = true → body field.2 = body field'.2) := by
  obtain ⟨key, v⟩ := field
  obtain ⟨key', w⟩ := field'
  rw [bodyField, bodyField, Prod.mk.injEq]
  refine and_congr_right fun hkey => ?_
  obtain rfl : key = key' := hkey
  by_cases hsecret : isSecret key = true
  · simp [hsecret]
  · simp [hsecret]

/-- **Documents are logged alike** if and only if they differ in secrets alone. -/
theorem apartFromSecrets_iff : ApartFromSecrets v w ↔ body v = body w := by
  induction v using Value.induct generalizing w with
  | scalar v hv =>
    rw [ApartFromSecrets, OneShape.scalar_iff hv, body_of_isScalar hv, eq_body_iff hv]
  | list items ih =>
    rw [body_list, list_eq_body_iff, ApartFromSecrets, OneShape.list_iff]
    refine exists_congr fun items' => and_congr_right fun _ => ?_
    rw [map_eq_map_iff_forall₂]
    exact forall₂_congr_mem fun v hv w _ => ih v hv
  | record fields ih =>
    rw [body_record, record_eq_body_iff, ApartFromSecrets, OneShape.record_iff]
    refine exists_congr fun fields' => and_congr_right fun _ => ?_
    rw [map_eq_map_iff_forall₂]
    refine forall₂_congr_mem fun field hfield field' _ => ?_
    rw [bodyField_eq_iff]
    exact and_congr_right fun _ => imp_congr_right fun _ => ih field.1 field.2 hfield

/-- **Hiding secrets twice** is hiding them once. -/
theorem body_body (v : Value) : body (body v) = body v := by
  induction v using Value.induct with
  | scalar v hv => rw [body_of_isScalar hv, body_of_isScalar hv]
  | list items ih =>
    rw [body_list, body_list, List.map_map]
    exact congrArg Value.list (List.map_congr_left ih)
  | record fields ih =>
    rw [body_record, body_record, List.map_map]
    refine congrArg Value.record (List.map_congr_left fun field hfield => ?_)
    refine bodyField_eq_iff.mpr ⟨rfl, fun hplain => ?_⟩
    have hfield' : (bodyField field).2 = body field.2 := if_neg hplain
    rw [hfield']
    exact ih field.1 field.2 hfield

/-- **Every record in a logged document** is one whose secrets were hidden. -/
theorem exists_of_within_body (h : Within (.record fields) (body v)) :
    ∃ given : List (String × Value), fields = given.map bodyField := by
  induction v using Value.induct with
  | scalar v hv =>
    rw [body_of_isScalar hv, Value.within_iff_of_isScalar hv] at h
    subst h
    exact nomatch hv
  | list items ih =>
    rw [body_list, Value.within_list_iff] at h
    obtain ⟨logged, hmem, hwithin⟩ := h.resolve_left nofun
    obtain ⟨v, hv, rfl⟩ := List.mem_map.mp hmem
    exact ih v hv hwithin
  | record given ih =>
    rw [body_record, Value.within_record_iff] at h
    rcases h with heq | ⟨logged, hmem, hwithin⟩
    · exact ⟨given, Value.record.inj heq⟩
    · obtain ⟨field, hfield, rfl⟩ := List.mem_map.mp hmem
      dsimp only [bodyField] at hwithin
      split_ifs at hwithin
      · exact nomatch hwithin
      · exact ih field.1 field.2 hfield hwithin

/-! ### The result -/

/-- **The log keeps secrets.** Two documents are logged alike if and only if they differ in secrets
alone. What is logged of a document differs from it in secrets alone, and logging that again changes
nothing. Every secret in what is logged is hidden, in whatever case its name is written. -/
theorem body_keeps_secrets (v w : Value) :
    (ApartFromSecrets v w ↔ body v = body w) ∧ ApartFromSecrets v (body v) ∧
      body (body v) = body v ∧
      (∀ fields, Within (.record fields) (body v) → ∀ field ∈ fields,
        isSecret field.1 = true → field.2 = .text mark) ∧
      ∀ key, ∀ name ∈ secretFields, Spells key name → isSecret key = true := by
  refine ⟨apartFromSecrets_iff, apartFromSecrets_iff.mpr (body_body v).symm, body_body v,
    fun fields hwithin field hfield hsecret => ?_, fun key name hname => isSecret_of_spells hname⟩
  obtain ⟨given, rfl⟩ := exists_of_within_body hwithin
  obtain ⟨original, -, rfl⟩ := List.mem_map.mp hfield
  exact if_pos hsecret

end RuleFlow.Redaction
