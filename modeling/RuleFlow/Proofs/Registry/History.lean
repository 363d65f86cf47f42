import Mathlib.Algebra.Order.Ring.Nat
import Mathlib.Data.String.Basic
import RuleFlow.Proofs.Firsts
import RuleFlow.Proofs.Text.Pieces
import RuleFlow.Registry.Basic

/-!
# The history of a registry

A registry is filled by registering one function after the other, and some of them are refused since
their names are taken. What it shows is computed in several ways: functions are looked up by name,
listed in another order than that of their registration, filtered, and counted by category. This
file shows that all of it agrees, after whatever calls there were.

## The invariant

What a registry holds is decided by what it was offered: the first function of each name, in the
order in which they came (`RuleFlow.Registry.entries_afterAll`). The order of listings is by number,
which functions may share, and then by name, which they cannot.

* `RuleFlow.Registry.offer` is one call, `RuleFlow.Registry.afterAll` any number of them.
* `RuleFlow.Registry.pairwise_before_listed` and `RuleFlow.Registry.listed_sublist` are about
  listings, and `RuleFlow.Registry.sum_count` is about the categories.
* `RuleFlow.Registry.Holds` is what the views of a registry have in common, and
  `RuleFlow.Registry.afterAll_consistent` is the result.
-/

namespace RuleFlow

variable {f g : Entry} {name : String} {category : Option Category} {search : Option String}

/-! ### Functions in listings -/

namespace Entry

/-- **A function comes before another** in listings: it has a smaller number, or the same number and
a smaller name. -/
def Before (f g : Entry) : Prop :=
  f.id < g.id ∨ f.id = g.id ∧ f.name < g.name

/-- **A function is searched for**: it is of the category, if there is one to be of, and what is
searched for is in one of the texts that are shown of it, in whatever case. -/
def Meets (f : Entry) (category : Option Category) (search : Option String) : Prop :=
  (∀ c ∈ category, f.category = c) ∧
    ∀ s ∈ search, ∃ shown ∈ [f.name, f.label, f.description],
      (Text.lower s).toList <:+: (Text.lower shown).toList

theorem precedes_iff : f.precedes g = true ↔ f.id < g.id ∨ f.id = g.id ∧ f.name ≤ g.name := by
  simp [precedes]

theorem precedes_trans {h : Entry} (hfg : f.precedes g = true) (hgh : g.precedes h = true) :
    f.precedes h = true := by
  rw [precedes_iff] at *
  rcases hfg with hlt | ⟨heq, hle⟩
  · rcases hgh with hlt' | ⟨heq', -⟩
    · exact .inl (hlt.trans hlt')
    · exact .inl (heq' ▸ hlt)
  · rcases hgh with hlt' | ⟨heq', hle'⟩
    · exact .inl (heq ▸ hlt')
    · exact .inr ⟨heq.trans heq', hle.trans hle'⟩

theorem precedes_total (f g : Entry) : (f.precedes g || g.precedes f) = true := by
  rw [Bool.or_eq_true, precedes_iff, precedes_iff]
  rcases lt_trichotomy f.id g.id with hlt | heq | hgt
  · exact .inl (.inl hlt)
  · exact (le_total f.name g.name).imp (fun hle => .inr ⟨heq, hle⟩) fun hle => .inr ⟨heq.symm, hle⟩
  · exact .inr (.inl hgt)

/-- Where the names are not the same, a function that may stand first does come first. -/
theorem before_of_precedes (h : f.precedes g = true) (hname : f.name ≠ g.name) : f.Before g :=
  (precedes_iff.mp h).imp_right fun ⟨heq, hle⟩ => ⟨heq, lt_of_le_of_ne hle hname⟩

theorem Before.ne (h : f.Before g) : f ≠ g := by
  rintro rfl
  rcases h with hlt | ⟨-, hlt⟩
  · exact lt_irrefl _ hlt
  · exact lt_irrefl _ hlt

/-- The empty text is in every text, so to search for it is to search for nothing. -/
theorem mentions_iff {s : String} : (s.isEmpty || f.mentions s) = true ↔
    ∃ shown ∈ [f.name, f.label, f.description],
      (Text.lower s).toList <:+: (Text.lower shown).toList := by
  have hoccurs : ∀ shown : String, Text.occursIn (Text.lower s).toList (Text.lower shown).toList =
      true ↔ (Text.lower s).toList <:+: (Text.lower shown).toList := by
    intro shown
    rw [Text.occursIn, Option.isSome_iff_ne_none, ne_eq, Text.indexOf?_eq_none_iff, not_not]
  rw [Bool.or_eq_true, mentions, List.any_eq_true]
  simp only [hoccurs]
  constructor
  · rintro (hempty | hshown)
    · rw [String.isEmpty_iff] at hempty
      subst hempty
      exact ⟨f.name, List.mem_cons_self, List.nil_infix⟩
    · exact hshown
  · exact .inr

end Entry

namespace Registry

variable {r : Registry}

/-! ### Calls -/

/-- **A function is offered** to a registry: it is registered, or it is refused and the registry
stays as it is. -/
def offer (r : Registry) (f : Entry) : Registry :=
  match r.register f with
  | .ok r' => r'
  | .error _ => r

/-- **The registry after some calls**, whichever of them were refused. -/
def afterAll (version : String) (offered : List Entry) : Registry :=
  offered.foldl offer { version }

theorem has_iff : r.has name = true ↔ name ∈ r.entries.map Entry.name := by
  simp [has, find?, List.find?_isSome]

/-- **A name that is taken** is refused, and a name that is not is registered. -/
theorem register_eq (r : Registry) (f : Entry) :
    r.register f =
      if f.name ∈ r.entries.map Entry.name then .error (.alreadyRegistered f.name)
      else .ok { r with entries := r.entries ++ [f] } := by
  simp only [register, has_iff]

/-- **One call** keeps the first functions of each name. -/
theorem offer_eq (r : Registry) (f : Entry) :
    r.offer f = { r with entries := addFirst Entry.name r.entries f } := by
  rw [offer, register_eq, addFirst]
  split_ifs <;> rfl

theorem afterAll_snoc (version : String) (offered : List Entry) (f : Entry) :
    afterAll version (offered ++ [f]) = (afterAll version offered).offer f := by
  simp [afterAll]

/-- **All calls** together keep the first function of each name. -/
theorem afterAll_eq (version : String) (offered : List Entry) :
    afterAll version offered = { version, entries := firsts Entry.name offered } := by
  induction offered using List.reverseRecOn with
  | nil => rfl
  | append_singleton offered f ih => rw [afterAll_snoc, ih, offer_eq, firsts_snoc]

theorem mem_names_afterAll {version : String} {offered : List Entry} :
    name ∈ (afterAll version offered).entries.map Entry.name ↔ name ∈ offered.map Entry.name := by
  rw [afterAll_eq]
  exact mem_map_firsts

/-! ### Listings -/

theorem mem_listed : f ∈ r.listed category search ↔ f ∈ r.entries ∧ f.Meets category search := by
  have hfilter : (category.all (f.category == ·) &&
      search.all fun s => s.isEmpty || f.mentions s) = true ↔ f.Meets category search := by
    rw [Bool.and_eq_true, Option.all_eq_true, Option.all_eq_true, Entry.Meets]
    simp only [beq_iff_eq, Entry.mentions_iff, Option.mem_def]
  rw [listed, List.mem_filter, List.mem_mergeSort, hfilter]

/-- Without a filter, everything is listed. -/
theorem listed_eq_mergeSort (r : Registry) :
    r.listed none none = r.entries.mergeSort Entry.precedes := by
  simp [listed]

/-- **A listing with filters** leaves functions of the whole listing out. -/
theorem listed_sublist (r : Registry) (category : Option Category) (search : Option String) :
    (r.listed category search).Sublist (r.listed none none) := by
  rw [listed_eq_mergeSort, listed]
  exact List.filter_sublist

/-- **The whole listing holds each function once.** -/
theorem listed_perm (r : Registry) : (r.listed none none).Perm r.entries := by
  rw [listed_eq_mergeSort]
  exact List.mergeSort_perm _ _

/-- **The whole listing is in order**, if no name is there twice. -/
theorem pairwise_before_listed (h : (r.entries.map Entry.name).Nodup) :
    (r.listed none none).Pairwise Entry.Before := by
  have hsorted : (r.listed none none).Pairwise fun f g => f.precedes g = true := by
    rw [listed_eq_mergeSort]
    refine List.pairwise_mergeSort ?_ Entry.precedes_total r.entries
    exact fun _ _ _ => Entry.precedes_trans
  have hnames : (r.listed none none).Pairwise fun f g => f.name ≠ g.name :=
    List.pairwise_map.mp (((r.listed_perm.map Entry.name).nodup_iff).mpr h)
  exact (hsorted.and hnames).imp fun ⟨hprecedes, hname⟩ => Entry.before_of_precedes hprecedes hname

/-! ### Categories -/

/-- **The number of a category** is that of the functions in its listing. -/
theorem count_eq_length (r : Registry) (c : Category) :
    r.count c = (r.listed (some c) none).length := by
  rw [listed, ← List.countP_eq_length_filter, (List.mergeSort_perm _ _).countP_eq, count]
  simp

/-- **The numbers add up**: every function is of one category. -/
theorem sum_count (r : Registry) : (Category.all.map r.count).sum = r.entries.length := by
  obtain ⟨version, entries⟩ := r
  induction entries with
  | nil => rfl
  | cons f rest ih =>
    rw [List.length_cons, ← ih]
    simp only [Category.all, count, List.countP_cons, List.map_cons, List.map_nil, List.sum_cons,
      List.sum_nil]
    cases f.category <;> simp <;> omega

/-! ### The result -/

/-- **A registry holds what it was offered**: each of its views shows the first function of every
name that was offered, and nothing else. -/
structure Holds (r : Registry) (offered : List Entry) : Prop where
  /-- A name is that of the first function offered under it. -/
  find? : ∀ name, r.find? name = offered.find? fun f => f.name == name
  /-- There are as many functions as names. -/
  length : r.entries.length = (offered.map Entry.name).toFinset.card
  /-- The whole listing holds each function once. -/
  perm : (r.listed none none).Perm r.entries
  /-- The whole listing goes by number and name, and holds nothing twice. -/
  before : (r.listed none none).Pairwise Entry.Before
  /-- A listing with filters has the order of the whole listing. -/
  sublist : ∀ category search, (r.listed category search).Sublist (r.listed none none)
  /-- A listing with filters shows what meets them. -/
  mem : ∀ category search f,
    f ∈ r.listed category search ↔ f ∈ r.listed none none ∧ f.Meets category search
  /-- Each category is described with the number of its listing. -/
  tally : r.tally = Category.all.map fun c =>
    .record [("id", .text c.name), ("name", .text c.title), ("description", .text c.description),
      ("count", .int (r.listed (some c) none).length)]
  /-- The numbers of the categories add up. -/
  total : (Category.all.map fun c => (r.listed (some c) none).length).sum = r.entries.length

/-- Nothing is in a listing twice. -/
theorem Holds.nodup {offered : List Entry} (h : r.Holds offered) : (r.listed none none).Nodup :=
  h.before.imp Entry.Before.ne

/-- Looking a name up finds the first function offered under it. -/
theorem Holds.get {offered : List Entry} (h : r.Holds offered)
    (hfound : (offered.find? fun f => f.name == name) = some f) : r.get name = .ok (some f) := by
  rw [Registry.get, h.find?, hfound]

theorem holds_afterAll (version : String) (offered : List Entry) :
    (afterAll version offered).Holds offered := by
  have hnames : ((afterAll version offered).entries.map Entry.name).Nodup := by
    rw [afterAll_eq]
    exact nodup_map_firsts offered
  refine ⟨fun name => ?_, ?_, listed_perm _, pairwise_before_listed hnames, listed_sublist _,
    fun category search f => ?_, ?_, ?_⟩
  · rw [afterAll_eq]
    exact find?_firsts offered name
  · rw [afterAll_eq]
    exact length_firsts offered
  · rw [mem_listed, (listed_perm _).mem_iff]
  · rw [tally]
    simp only [count_eq_length]
  · simp only [← count_eq_length]
    exact sum_count _

/-- **After any calls**, accepted or refused, a registry holds what it was offered. One more
function is refused if a function of its name was offered before, and the registry stays as it is;
it is registered behind the others if its name is new. -/
theorem afterAll_consistent (version : String) (offered : List Entry) :
    (afterAll version offered).Holds offered ∧
      (∀ f : Entry, f.name ∈ offered.map Entry.name →
        (afterAll version offered).register f = .error (.alreadyRegistered f.name) ∧
          (Fault.alreadyRegistered f.name).className = "ValueError" ∧
          afterAll version (offered ++ [f]) = afterAll version offered) ∧
      ∀ f : Entry, f.name ∉ offered.map Entry.name →
        (afterAll version offered).register f = .ok (afterAll version (offered ++ [f])) ∧
          (afterAll version (offered ++ [f])).entries =
            (afterAll version offered).entries ++ [f] := by
  refine ⟨holds_afterAll version offered, fun f hf => ?_, fun f hf => ?_⟩
  · have hregister : (afterAll version offered).register f =
        .error (.alreadyRegistered f.name) := by
      rw [register_eq, if_pos (mem_names_afterAll.mpr hf)]
    refine ⟨hregister, rfl, ?_⟩
    rw [afterAll_snoc, offer, hregister]
  · have hregister : (afterAll version offered).register f =
        .ok { afterAll version offered with
          entries := (afterAll version offered).entries ++ [f] } := by
      rw [register_eq, if_neg (mt mem_names_afterAll.mp hf)]
    rw [afterAll_snoc, offer, hregister]
    exact ⟨rfl, rfl⟩

end Registry

end RuleFlow
