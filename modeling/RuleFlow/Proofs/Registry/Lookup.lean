import RuleFlow.Proofs.Number.Whole
import RuleFlow.Registry.Catalogue

/-!
# Looking functions up

A function is looked up by its name or, where no function has the name, by its number in digits.
Names come from outside and may be any text.

## What the lookup trips over

Whether a name consists of digits is asked in the wide sense of a digit, and whether it is a number
only afterwards. So there are names that are taken for numbers and are none, or are too long to be
read, and at such a name the lookup fails instead of finding nothing.

* `RuleFlow.Registry.Answers` says what a registry has to answer, and `RuleFlow.Registry.Trips` at
  which names it fails.
* `RuleFlow.Registry.ends_get` is what a lookup comes to.
* `RuleFlow.Registry.lookup_closed_iff` is the result, for lookups that may find nothing and for
  those that have to find something.
-/

namespace RuleFlow

namespace Registry

variable {r : Registry} {name : String} {f g : Entry}

open Number (Denotes mostDigits)

/-! ### What is asked of a lookup -/

/-- **The first function** of which something holds, in the order of registration. -/
def First (r : Registry) (p : Entry → Prop) (f : Entry) : Prop :=
  ∃ before after, r.entries = before ++ f :: after ∧ p f ∧ ∀ g ∈ before, ¬p g

/-- No function has a name. -/
def Lacks (r : Registry) (name : String) : Prop :=
  ∀ f ∈ r.entries, f.name ≠ name

/-- **What a registry has to answer** to a name. -/
inductive Answers (r : Registry) (name : String) : Option Entry → Prop
  /-- A function of that name. -/
  | named {f : Entry} : r.First (fun g => g.name = name) f → Answers r name (some f)
  /-- If there is none, the first function of the number that the name denotes. -/
  | numbered {n : Nat} {f : Entry} : r.Lacks name → Denotes name n →
      r.First (fun g => g.id = n) f → Answers r name (some f)
  /-- If there is none of that number either, or the name denotes no number, nothing. -/
  | nothing : r.Lacks name → (∀ n, Denotes name n → ∀ f ∈ r.entries, f.id ≠ n) →
      Answers r name none

/-- **A registry trips** over a name: no function has it, there are functions to compare with, and
the name consists of digits in the wide sense which denote no number or are too many to be read. -/
structure Trips (r : Registry) (name : String) : Prop where
  /-- No function has the name. -/
  lacks : r.Lacks name
  /-- There are functions. -/
  nonempty : r.entries ≠ []
  /-- The name consists of digits, be they decimal digits or not. -/
  digits : Text.isDigitString name = true
  /-- The digits are not read as a number. -/
  unread : (∀ n, ¬Denotes name n) ∨ mostDigits < name.length

/-! ### Searching the functions -/

theorem find?_entries_eq_some_iff {p : Entry → Bool} :
    r.entries.find? p = some f ↔ r.First (fun g => p g = true) f := by
  rw [List.find?_eq_some_iff_append]
  simp only [First, Bool.not_eq_true']
  constructor
  · rintro ⟨hp, before, after, hsplit, hbefore⟩
    exact ⟨before, after, hsplit, hp, fun g hg => by simp [hbefore g hg]⟩
  · rintro ⟨before, after, hsplit, hp, hbefore⟩
    exact ⟨hp, before, after, hsplit, fun g hg => by simpa using hbefore g hg⟩

theorem find?_eq_some_iff : r.find? name = some f ↔ r.First (fun g => g.name = name) f := by
  rw [find?]
  simpa using find?_entries_eq_some_iff (r := r) (p := fun g => g.name == name)

theorem withId?_eq_some_iff {id : Int} :
    r.withId? id = some f ↔ r.First (fun g => g.id = id) f := by
  rw [withId?]
  simpa using find?_entries_eq_some_iff (r := r) (p := fun g => g.id == id)

theorem find?_eq_none_iff : r.find? name = none ↔ r.Lacks name := by
  simp [find?, Lacks]

theorem First.mem {p : Entry → Prop} (h : r.First p f) : f ∈ r.entries ∧ p f := by
  obtain ⟨before, after, hsplit, hp, -⟩ := h
  exact ⟨by simp [hsplit], hp⟩

/-! ### There is one answer -/

/-- A function that has the name is the answer. -/
theorem Answers.eq_of_named (hf : r.First (fun g => g.name = name) f) {answer : Option Entry}
    (h : r.Answers name answer) : answer = some f := by
  obtain ⟨hmem, hname⟩ := hf.mem
  cases h with
  | named hg => exact (find?_eq_some_iff.mpr hg).symm.trans (find?_eq_some_iff.mpr hf)
  | numbered hlacks => exact absurd hname (hlacks f hmem)
  | nothing hlacks => exact absurd hname (hlacks f hmem)

/-- If no function has the name, the answer is the function of the number. -/
theorem Answers.eq_of_denotes (hlacks : r.Lacks name) {n : Nat} (hn : Denotes name n)
    {answer : Option Entry} (h : r.Answers name answer) : answer = r.withId? n := by
  cases h with
  | named hf => exact absurd hf.mem.2 (hlacks _ hf.mem.1)
  | numbered _ hm hf =>
    rw [hm.unique hn] at hf
    exact (withId?_eq_some_iff.mpr hf).symm
  | nothing _ hno =>
    refine (List.find?_eq_none.mpr fun f hf => ?_).symm
    simpa using hno n hn f hf

/-- If no function has the name and it denotes no number, the answer is nothing. -/
theorem Answers.eq_none (hlacks : r.Lacks name) (hno : ∀ n, ¬Denotes name n)
    {answer : Option Entry} (h : r.Answers name answer) : answer = none := by
  cases h with
  | named hf => exact absurd hf.mem.2 (hlacks _ hf.mem.1)
  | numbered _ hm => exact absurd hm (hno _)
  | nothing => rfl

/-- **There is at most one answer.** -/
theorem Answers.unique {answer answer' : Option Entry} (h : r.Answers name answer)
    (h' : r.Answers name answer') : answer = answer' := by
  cases hname : r.find? name with
  | some f =>
    have hf := find?_eq_some_iff.mp hname
    rw [h.eq_of_named hf, h'.eq_of_named hf]
  | none =>
    have hlacks := find?_eq_none_iff.mp hname
    by_cases hdenotes : ∃ n, Denotes name n
    · obtain ⟨n, hn⟩ := hdenotes
      rw [h.eq_of_denotes hlacks hn, h'.eq_of_denotes hlacks hn]
    · have hno := not_exists.mp hdenotes
      rw [h.eq_none hlacks hno, h'.eq_none hlacks hno]

/-- What is answered is one of the functions. -/
theorem Answers.mem (h : r.Answers name (some f)) : f ∈ r.entries := by
  cases h with
  | named hf => exact hf.mem.1
  | numbered _ _ hf => exact hf.mem.1

/-- The function of the number is an answer if no function has the name. -/
theorem answers_withId? (hlacks : r.Lacks name) {n : Nat} (hn : Denotes name n) :
    r.Answers name (r.withId? n) := by
  cases hfound : r.withId? n with
  | some f => exact .numbered hlacks hn (withId?_eq_some_iff.mp hfound)
  | none =>
    refine .nothing hlacks fun m hm f hf => ?_
    rw [hm.unique hn]
    simpa using List.find?_eq_none.mp hfound f hf

/-! ### What lookups come to -/

/-- **What a lookup comes to**: the answer, or a fault if it trips. -/
theorem ends_get (r : Registry) (name : String) :
    Ends (r.get name) (fun answer => r.Answers name answer ∧ ¬r.Trips name)
      (fun f => f.className = "ValueError" ∧ r.Trips name) := by
  rw [get]
  cases hname : r.find? name with
  | some f =>
    have hf := find?_eq_some_iff.mp hname
    exact ⟨.named hf, fun htrips => htrips.lacks f hf.mem.1 hf.mem.2⟩
  | none =>
    have hlacks := find?_eq_none_iff.mp hname
    dsimp only
    -- A name that is asked for as a number is read first, and reading it answers or fails.
    split_ifs with hasks
    · obtain ⟨hdigits, hentries⟩ : Text.isDigitString name = true ∧ r.entries ≠ [] := by
        simpa using hasks
      cases hread : Value.wholeOfText name with
      | ok k =>
        obtain ⟨hlength, n, hn, rfl⟩ := (Value.wholeOfText_eq_ok_iff hdigits).mp hread
        refine ⟨answers_withId? hlacks hn, fun htrips => ?_⟩
        exact htrips.unread.elim (fun hno => hno n hn) (Nat.not_lt.mpr hlength)
      | error f =>
        refine ⟨(Value.ends_wholeOfText name).of_error hread, hlacks, hentries, hdigits, ?_⟩
        by_contra hunread
        rw [not_or, not_forall_not, Nat.not_lt] at hunread
        obtain ⟨⟨n, hn⟩, hlength⟩ := hunread
        have hok := (Value.wholeOfText_eq_ok_iff hdigits).mpr ⟨hlength, n, hn, rfl⟩
        exact nomatch hread.symm.trans hok
    · refine ⟨.nothing hlacks fun n hn f hf => ?_, fun htrips => ?_⟩
      · exact absurd (by simp [hn.isDigitString, List.ne_nil_of_mem hf]) hasks
      · exact absurd (by simp [htrips.digits, htrips.nonempty]) hasks

/-- A function that is found is one of the registry. -/
theorem mem_of_get (h : r.get name = .ok (some f)) : f ∈ r.entries :=
  ((r.ends_get name).of_ok h).1.mem

theorem require_eq_ok_iff : r.require name = .ok f ↔ r.get name = .ok (some f) := by
  rw [require]
  cases r.get name with
  | ok answer => cases answer <;> simp
  | error fault => simp

/-- **What has to be found is unknown** exactly if nothing is found. -/
theorem require_eq_unknown_iff :
    r.require name = .error (.bind (.unknownFunction name r.version)) ↔ r.get name = .ok none := by
  rw [require]
  cases r.get name with
  | ok answer => cases answer <;> simp
  | error fault => simp

theorem require_of_get_eq_error {fault : Fault} (h : r.get name = .error fault) :
    r.require name = .error (.fault fault) := by
  rw [require, h]

/-- **Lookups are closed, unless they trip.** A lookup finds the function that is registered under a
name, or else the first one of the number that the name denotes, or else nothing, and what has to be
found and is not is said to be unknown, exactly if the registry does not trip over the name. Where
it trips, both lookups end with a fault. -/
theorem lookup_closed_iff (r : Registry) (name : String) :
    (∀ answer, r.get name = .ok answer ↔ r.Answers name answer ∧ ¬r.Trips name) ∧
      (∀ f, r.require name = .ok f ↔ r.Answers name (some f) ∧ ¬r.Trips name) ∧
      (r.require name = .error (.bind (.unknownFunction name r.version)) ↔
        r.Answers name none ∧ ¬r.Trips name) ∧
      (r.Trips name ↔ ∃ fault, r.get name = .error fault) ∧
      ∀ fault, r.get name = .error fault →
        fault.className = "ValueError" ∧ r.require name = .error (.fault fault) := by
  have hends := r.ends_get name
  have hget : ∀ answer, r.get name = .ok answer ↔ r.Answers name answer ∧ ¬r.Trips name := by
    refine fun answer => ⟨hends.of_ok, fun ⟨hanswer, htrips⟩ => ?_⟩
    cases hresult : r.get name with
    | ok answer' => rw [(hends.of_ok hresult).1.unique hanswer]
    | error fault => exact absurd (hends.of_error hresult).2 htrips
  refine ⟨hget, fun f => require_eq_ok_iff.trans (hget _),
    require_eq_unknown_iff.trans (hget none), ⟨fun htrips => ?_, fun ⟨fault, hfault⟩ => ?_⟩,
    fun fault hfault => ⟨(hends.of_error hfault).1, require_of_get_eq_error hfault⟩⟩
  · cases hresult : r.get name with
    | ok answer => exact absurd htrips (hends.of_ok hresult).2
    | error fault => exact ⟨fault, rfl⟩
  · exact (hends.of_error hfault).2

/-- Leading zeros do not matter to the number that a name denotes. -/
example : (Catalogue.standard.get "02003").map (·.map (·.name)) = .ok (some "STRING_UPPER") :=
  rfl

/-- **A raised two is taken for a number** and is none: the standard catalogue does not answer that
it has no such function, but trips. -/
theorem raised_digit_trips :
    Catalogue.standard.Answers "²" none ∧
      Catalogue.standard.get "²" = .error (.notWhole "²") ∧
      Catalogue.standard.require "²" = .error (.fault (.notWhole "²")) := by
  have hno : ∀ n, ¬Denotes "²" n := by
    intro n hn
    obtain ⟨-, hall⟩ := Number.exists_denotes_iff.mp ⟨n, hn⟩
    exact absurd (hall '²' (by simp)) (by decide)
  have hlacks : Catalogue.standard.Lacks "²" := find?_eq_none_iff.mp rfl
  exact ⟨.nothing hlacks fun n hn => absurd hn (hno n), rfl, rfl⟩

end Registry

end RuleFlow
