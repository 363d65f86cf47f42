import Mathlib.Data.List.Chain
import Mathlib.Data.List.Nodup
import RuleFlow.Proofs.Ends
import RuleFlow.Proofs.Graph.Sorted
import RuleFlow.Rule.Graph

/-!
# Walking depth first

What `RuleFlow.Graph.search` comes to: either it has walked everything that is reached from its
vertex and has left it behind in a sorted sequence, or it has met a circle and tells it.

## The state of a walk

A vertex that was met is either left behind or on the way that is being walked
(`RuleFlow.Graph.Walk.Sound`). What was left behind is sorted, so no circle goes through it; a
circle has to close on the way itself, which is what the search looks for.

The bound on the length of the way is never reached: the way holds no vertex twice
(`RuleFlow.Graph.Trail`), so it is no longer than the number of vertices.
-/

namespace RuleFlow

namespace Graph

variable {successors : String → List String} {ids path : List String} {walk : Walk} {v w : String}

/-! ### Circles -/

/-- **A circle**: a path along edges whose ends are one vertex and which meets no other vertex
twice. -/
def IsCircle (successors : String → List String) (path : List String) : Prop :=
  ∃ v between, path = v :: (between ++ [v]) ∧ (v :: between).Nodup ∧
    path.IsChain (Leads successors)

theorem transGen_of_isChain {between : List String}
    (h : (v :: (between ++ [w])).IsChain (Leads successors)) :
    Relation.TransGen (Leads successors) v w := by
  induction between generalizing v with
  | nil => exact .single (by simpa using h)
  | cons u between ih =>
    rw [List.cons_append, List.isChain_cons_cons] at h
    exact (ih h.2).head h.1

/-- A circle leads back to where it starts. -/
theorem IsCircle.exists_transGen (h : IsCircle successors path) :
    ∃ v, Relation.TransGen (Leads successors) v v := by
  obtain ⟨v, between, rfl, -, hchain⟩ := h
  exact ⟨v, transGen_of_isChain hchain⟩

/-! ### The way of a walk -/

/-- **The way that a walk is on**, given backwards: known vertices, none of them twice, each led to
by the one behind it. -/
structure Trail (successors : String → List String) (ids path : List String) : Prop where
  /-- No vertex is on the way twice. -/
  nodup : path.Nodup
  /-- The vertices on the way are known. -/
  known : ∀ v ∈ path, v ∈ ids
  /-- Each vertex is led to by the next one of the list. -/
  chain : path.IsChain fun later earlier => Leads successors earlier later

namespace Trail

theorem length_le (h : Trail successors ids path) : path.length ≤ ids.length :=
  List.Nodup.length_le_of_subset h.nodup fun _ hv => h.known _ hv

theorem cons (h : Trail successors ids (v :: path)) (hw : w ∈ ids) (hfresh : w ∉ v :: path)
    (hvw : Leads successors v w) : Trail successors ids (w :: v :: path) where
  nodup := List.nodup_cons.mpr ⟨hfresh, h.nodup⟩
  known u hu := by
    rcases List.mem_cons.mp hu with rfl | hu
    · exact hw
    · exact h.known u hu
  chain := List.isChain_cons_cons.mpr ⟨hvw, h.chain⟩

/-- **An edge back onto the way closes a circle.** -/
theorem isCircle (h : Trail successors ids (v :: path)) (hw : w ∈ v :: path)
    (hvw : Leads successors v w) : IsCircle successors (circle (v :: path) w) := by
  obtain ⟨between, rest, hsplit⟩ := List.append_of_mem hw
  have hnodup : (between ++ w :: rest).Nodup := hsplit ▸ h.nodup
  have hw' : w ∉ between := fun hmem =>
    (List.nodup_append.mp hnodup).2.2 w hmem w List.mem_cons_self rfl
  have htake : (v :: path).takeWhile (· != w) = between := by
    rw [hsplit, List.takeWhile_append_of_pos fun u hu => ?_]
    · simp
    · have hne : u ≠ w := fun heq => hw' (heq ▸ hu)
      simpa using hne
  refine ⟨w, between.reverse, by rw [circle, htake]; rfl, ?_, ?_⟩
  · have hnodup' : (between ++ [w]).Nodup := hnodup.sublist (by simp)
    simpa using List.nodup_reverse.mpr hnodup'
  · have hsplit' : v :: path = (between ++ [w]) ++ rest := by simpa using hsplit
    have hback : (between ++ [w]).IsChain fun later earlier => Leads successors earlier later :=
      (hsplit' ▸ h.chain).left_of_append
    have hclosed : (w :: (between ++ [w])).IsChain
        fun later earlier => Leads successors earlier later := by
      cases between with
      | nil =>
        obtain rfl : v = w := by simpa using congrArg List.head? hsplit
        simpa using hvw
      | cons u between =>
        obtain rfl : v = u := by simpa using congrArg List.head? hsplit
        exact List.isChain_cons_cons.mpr ⟨hvw, hback⟩
    rw [circle, htake, ← List.isChain_reverse]
    simpa [flip] using hclosed

end Trail

/-! ### The state of a walk -/

/-- **The state of a walk along a way.** -/
structure Walk.Sound (successors : String → List String) (ids path : List String) (walk : Walk) :
    Prop where
  /-- What is left behind is sorted. -/
  sorted : Sorted successors walk.finished
  /-- A vertex that was met is left behind or on the way. -/
  mem_visited : ∀ v, v ∈ walk.visited ↔ v ∈ walk.finished ∨ v ∈ path
  /-- Nothing on the way is left behind. -/
  fresh : ∀ v ∈ path, v ∉ walk.finished
  /-- What is left behind is known. -/
  known : ∀ v ∈ walk.finished, v ∈ ids

namespace Walk.Sound

/-- The walk that has not begun. -/
theorem start : Walk.Sound successors ids [] {} where
  sorted := .nil
  mem_visited := by simp
  fresh := by simp
  known := by simp

/-- Stepping onto a new vertex. -/
theorem enter (h : walk.Sound successors ids path) (hv : v ∉ walk.visited) :
    Walk.Sound successors ids (v :: path) { walk with visited := v :: walk.visited } where
  sorted := h.sorted
  mem_visited u := by
    rw [List.mem_cons, List.mem_cons, h.mem_visited]
    exact or_left_comm
  fresh u hu := by
    rcases List.mem_cons.mp hu with rfl | hu
    · exact fun hmem => hv ((h.mem_visited u).mpr (Or.inl hmem))
    · exact h.fresh u hu
  known := h.known

/-- Leaving a vertex behind, once everything it leads to is. -/
theorem leave (h : walk.Sound successors ids (v :: path)) (hv : v ∈ ids) (hpath : v ∉ path)
    (hsucc : ∀ w ∈ successors v, w ∈ walk.finished) :
    Walk.Sound successors ids path { walk with finished := v :: walk.finished } where
  sorted := .cons (h.fresh v List.mem_cons_self) hsucc h.sorted
  mem_visited u := by
    rw [h.mem_visited, List.mem_cons, List.mem_cons, or_left_comm, or_assoc]
  fresh u hu := by
    refine List.not_mem_cons_of_ne_of_not_mem ?_ (h.fresh u (List.mem_cons_of_mem _ hu))
    rintro rfl
    exact hpath hu
  known u hu := by
    rcases List.mem_cons.mp hu with rfl | hu
    · exact hv
    · exact h.known u hu

end Walk.Sound

/-! ### The search -/

/-- **A walk that has gone on**: a vertex is left behind, and nothing is lost that was. -/
structure Walk.Advanced (successors : String → List String) (ids path : List String) (walk : Walk)
    (v : String) (walk' : Walk) : Prop where
  /-- The new state is one of the same way. -/
  sound : walk'.Sound successors ids path
  /-- The vertex is left behind. -/
  reached : v ∈ walk'.finished
  /-- What was left behind still is. -/
  kept : walk.finished ⊆ walk'.finished

/-- Going on along one edge. -/
def follow (successors : String → List String) (depth : ℕ) (path : List String) (walk : Walk)
    (next : String) : Except (List String) Walk :=
  if path.contains next then .error (circle path next)
  else if walk.visited.contains next then .ok walk
  else search successors depth path walk next

theorem search_succ (depth : ℕ) :
    search successors (depth + 1) path walk v =
      match (successors v).foldlM (follow successors depth (v :: path))
        { walk with visited := v :: walk.visited } with
      | .error cycle => .error cycle
      | .ok walk => .ok { walk with finished := v :: walk.finished } := rfl

variable (successors ids) in
/-- What a search promises that may go down to some depth. -/
def Searches (depth : ℕ) : Prop :=
  ∀ {path : List String} {walk : Walk} {v : String}, ids.length < path.length + depth →
    Trail successors ids (v :: path) → walk.Sound successors ids path → v ∉ walk.visited →
    Ends (search successors depth path walk v) (walk.Advanced successors ids path v)
      (IsCircle successors)

/-- Going on along one edge leads to what is left behind afterwards, or closes a circle. -/
theorem ends_follow {depth : ℕ} (hsearch : Searches successors ids depth)
    (hdepth : ids.length < (v :: path).length + depth) (htrail : Trail successors ids (v :: path))
    (hwalk : walk.Sound successors ids (v :: path)) (hw : w ∈ ids) (hvw : Leads successors v w) :
    Ends (follow successors depth (v :: path) walk w)
      (walk.Advanced successors ids (v :: path) w) (IsCircle successors) := by
  rw [follow]
  split_ifs with hpath hvisited
  · exact htrail.isCircle (by simpa using hpath) hvw
  · -- A vertex that was met and is not on the way is left behind.
    refine ⟨hwalk, ?_, List.Subset.refl _⟩
    rcases (hwalk.mem_visited w).mp (by simpa using hvisited) with h | h
    · exact h
    · exact absurd (by simpa using h) hpath
  · exact hsearch hdepth (htrail.cons hw (by simpa using hpath) hvw) hwalk
      (by simpa using hvisited)

/-- **Going on along every edge** leads to what is left behind afterwards, or closes a circle. -/
theorem ends_edges {depth : ℕ} (hsearch : Searches successors ids depth)
    (hdepth : ids.length < (v :: path).length + depth) (htrail : Trail successors ids (v :: path))
    (hsucc : ∀ w ∈ successors v, w ∈ ids) (hwalk : walk.Sound successors ids (v :: path)) :
    Ends ((successors v).foldlM (follow successors depth (v :: path)) walk)
      (fun walk' : Walk => walk'.Sound successors ids (v :: path) ∧
        (∀ w ∈ successors v, w ∈ walk'.finished) ∧ walk.finished ⊆ walk'.finished)
      (IsCircle successors) := by
  refine ends_foldlM _
    (fun done (walk' : Walk) => walk'.Sound successors ids (v :: path) ∧
      (∀ w ∈ done, w ∈ walk'.finished) ∧ walk.finished ⊆ walk'.finished) _
    ⟨hwalk, by simp, List.Subset.refl _⟩ ?_
  rintro before next after walk' hnext ⟨hwalk', hdone, hkept⟩
  have hmem : next ∈ successors v := by simp [hnext]
  refine (ends_follow hsearch hdepth htrail hwalk' (hsucc next hmem) hmem).mono ?_ fun _ h => h
  rintro walk'' ⟨hwalk'', hreached, hkept'⟩
  have hdone' : ∀ w ∈ before ++ [next], w ∈ walk''.finished :=
    forall_mem_snoc.mpr ⟨fun w hw => hkept' (hdone w hw), hreached⟩
  exact ⟨hwalk'', hdone', List.Subset.trans hkept hkept'⟩

/-- **What a search comes to**: its vertex is left behind and nothing is lost that was, or a circle
is told. -/
theorem ends_search (hclosed : ∀ v ∈ ids, ∀ w ∈ successors v, w ∈ ids) (depth : ℕ) :
    Searches successors ids depth := by
  induction depth with
  | zero =>
    -- The way would be longer than the list of all vertices.
    intro path walk v hdepth htrail _ _
    have hlen := htrail.length_le
    simp only [List.length_cons] at hlen
    omega
  | succ depth ih =>
    intro path walk v hdepth htrail hwalk hv
    have hids : v ∈ ids := htrail.known v List.mem_cons_self
    have hedges := ends_edges ih (by simp only [List.length_cons]; omega) htrail
      (hclosed v hids) (hwalk.enter hv)
    rw [search_succ]
    revert hedges
    cases List.foldlM (follow successors depth (v :: path)) _ (successors v) with
    | error cycle => exact id
    | ok walk' =>
      rintro ⟨hwalk', hdone, hkept⟩
      exact ⟨hwalk'.leave hids (List.nodup_cons.mp htrail.nodup).1 hdone, List.mem_cons_self,
        List.Subset.trans hkept (List.subset_cons_self _ _)⟩

end Graph

end RuleFlow
