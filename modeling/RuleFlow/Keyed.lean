/-!
# Keyed lists

A keyed list is a list of pairs in the order in which the keys first came. It stands for a finite
map whose order of keys can be seen.

* `RuleFlow.Keyed.find?` looks a key up.
* `RuleFlow.Keyed.set` gives a key a value: at its old place, or at the end if it is new.
* `RuleFlow.Keyed.ofPairs` builds a keyed list, the last of equal keys winning. It leaves pairs
  with different keys as they are (`RuleFlow.Keyed.ofPairs_of_nodup`).
-/

namespace RuleFlow

/-- **Keyed lists.** -/
abbrev Keyed (α : Type) := List (String × α)

namespace Keyed

variable {α : Type}

/-- The value of a key. -/
def find? (entries : Keyed α) (key : String) : Option α :=
  entries.lookup key

/-- Whether a key has a value. -/
def has (entries : Keyed α) (key : String) : Bool :=
  (entries.find? key).isSome

/-- The keys in order. -/
def keys (entries : Keyed α) : List String :=
  entries.map (·.1)

/-- **Giving a key a value.** A key that is there keeps its place. -/
def set : Keyed α → String → α → Keyed α
  | [], key, value => [(key, value)]
  | (k, v) :: rest, key, value =>
    if k = key then (k, value) :: rest else (k, v) :: set rest key value

/-- **A keyed list of pairs**, of which the last of equal keys wins. -/
def ofPairs (pairs : List (String × α)) : Keyed α :=
  pairs.foldl (fun entries (key, value) => entries.set key value) []

/-- A key just set has its new value. -/
theorem find?_set_self (entries : Keyed α) (key : String) (value : α) :
    (entries.set key value).find? key = some value := by
  induction entries with
  | nil => simp [set, find?]
  | cons entry rest ih =>
    obtain ⟨k, v⟩ := entry
    by_cases h : k = key
    · simp [set, find?, h]
    · have h' : (key == k) = false := by simpa using fun e => h e.symm
      simpa [set, find?, h, List.lookup_cons, h'] using ih

/-- Setting a key changes no other. -/
theorem find?_set_of_ne (entries : Keyed α) {key other : String} (value : α) (h : other ≠ key) :
    (entries.set key value).find? other = entries.find? other := by
  induction entries with
  | nil =>
    have h' : (other == key) = false := by simpa using h
    simp [set, find?, List.lookup_cons, h']
  | cons entry rest ih =>
    obtain ⟨k, v⟩ := entry
    by_cases hk : k = key
    · have h' : (other == key) = false := by simpa using h
      simp [set, find?, List.lookup_cons, hk, h']
    · cases ho : other == k with
      | true => simp [set, find?, List.lookup_cons, hk, ho]
      | false => simpa [set, find?, List.lookup_cons, hk, ho] using ih

/-- **A value that is found** after setting a key is the new one, or was there before. -/
theorem find?_set_eq_some {entries : Keyed α} {key name : String} {value v : α}
    (h : (entries.set key value).find? name = some v) :
    name = key ∧ v = value ∨ name ≠ key ∧ entries.find? name = some v := by
  by_cases hname : name = key
  · subst hname
    exact .inl ⟨rfl, (Option.some.inj ((find?_set_self ..).symm.trans h)).symm⟩
  · exact .inr ⟨hname, (find?_set_of_ne _ _ hname).symm.trans h⟩

/-- Setting a key brings in its new value and nothing else. -/
theorem mem_set {entries : Keyed α} {key : String} {value : α} {entry : String × α}
    (h : entry ∈ entries.set key value) : entry ∈ entries ∨ entry = (key, value) := by
  induction entries with
  | nil => exact .inr (List.mem_singleton.mp h)
  | cons first rest ih =>
    obtain ⟨k, v⟩ := first
    rw [set] at h
    split at h
    next hk =>
      subst hk
      exact (List.mem_cons.mp h).symm.imp_left (List.mem_cons_of_mem _)
    next =>
      rcases List.mem_cons.mp h with rfl | hrest
      · exact .inl List.mem_cons_self
      · exact (ih hrest).imp_left (List.mem_cons_of_mem _)

/-- A key without a value comes last once it gets one. -/
theorem set_of_not_mem {entries : Keyed α} {key : String} (value : α) (h : key ∉ entries.keys) :
    entries.set key value = entries ++ [(key, value)] := by
  induction entries with
  | nil => rfl
  | cons entry rest ih =>
    obtain ⟨k, v⟩ := entry
    have hne : key ≠ k := List.ne_of_not_mem_cons h
    have hrest : key ∉ keys rest := List.not_mem_of_not_mem_cons h
    rw [set, if_neg fun heq => hne heq.symm, ih hrest, List.cons_append]

/-- **Pairs with different keys** are a keyed list as they are. -/
theorem ofPairs_of_nodup {pairs : Keyed α} (h : pairs.keys.Nodup) : ofPairs pairs = pairs := by
  suffices hadd : ∀ before : Keyed α, (keys (before ++ pairs)).Nodup →
      pairs.foldl (fun entries (key, value) => entries.set key value) before = before ++ pairs from
    hadd [] h
  clear h
  induction pairs with
  | nil => exact fun before _ => (List.append_nil before).symm
  | cons pair rest ih =>
    intro before hnodup
    obtain ⟨key, value⟩ := pair
    have hnew : key ∉ before.keys := by
      rw [keys, List.map_append, List.nodup_append] at hnodup
      exact fun hmem => hnodup.2.2 key hmem key List.mem_cons_self rfl
    have hmoved : before ++ (key, value) :: rest = before ++ [(key, value)] ++ rest := by simp
    rw [hmoved] at hnodup ⊢
    rw [List.foldl_cons]
    dsimp only
    rw [set_of_not_mem value hnew]
    exact ih _ hnodup

/-- The first entry decides for its key and for no other. -/
theorem find?_cons (entries : Keyed α) (key name : String) (value : α) :
    find? ((key, value) :: entries) name =
      if name = key then some value else entries.find? name := by
  rw [find?, List.lookup_cons]
  cases h : name == key with
  | true => simp [beq_iff_eq.mp h]
  | false =>
    have hne : name ≠ key := by simpa using h
    simp [hne, find?]

end Keyed

end RuleFlow
