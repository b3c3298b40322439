import ActivityMetrics.Proofs.Warehouse.Projects
import Mathlib.Data.List.Permutation
import Mathlib.Order.WellFounded

/-!
# Searching a tree of projects

A database does not look for the parts of projects in rounds. It keeps what it has found, and of
this what still waits; it takes any project that waits and looks for its parts, and those that are
found for the first time wait in turn. Projects may be parts of each other or of themselves, and be
part of several.

Every part that is found was missing before, so whichever projects are taken first, a search comes
to an end (`Search.wellFounded`). It never forgets a project that still has parts to be found
(`Search.Sound`), so when none waits it has found the tree, and nothing twice
(`projectTree_eq_search`).

Which project is taken next is left open, since a database is free to take the first that was found,
the last, or any other; a search is therefore a relation and not a function. What it finds does not
depend on this, and the order in which it finds it does. Parts that were found before are dropped.
It is this, and nothing in the links, that keeps a search from going round in a circle.
-/

namespace ActivityMetrics.Warehouse

/-- A search for the parts of a project. What waits is part of what was found, so a state may be
written down that no search is ever in; `Search.Sound` excludes these. -/
structure Search where
  /-- The projects that have been found. -/
  found : List String
  /-- Those of them whose parts have not been looked for. -/
  waiting : List String

namespace Search

variable {w : Warehouse} {p q : String} {qs : List String} {s s' : Search}

/-- The search for the parts of a project begins with the project. -/
def start (p : String) : Search := ⟨[p], [p]⟩

/-- A project that is found for the first time waits. -/
def find (s : Search) (q : String) : Search :=
  if q ∈ s.found then s else ⟨s.found ++ [q], s.waiting ++ [q]⟩

/-- A step takes any project that waits, and finds its parts. The relation leaves the choice open,
so a theorem about it holds of a search that goes deep first and of one that goes wide first. -/
inductive Step (w : Warehouse) : Search → Search → Prop where
  /-- Takes a project from between others. -/
  | take (found before after : List String) (p : String) :
    Step w ⟨found, before ++ p :: after⟩ ((w.partsOf p).foldl find ⟨found, before ++ after⟩)

/-- One search is a later state of another, after any number of steps. -/
def Leads (w : Warehouse) : Search → Search → Prop :=
  Relation.ReflTransGen (Step w)

/-! ## Finding the parts of a project

A step finds the parts of one project one after another. What it adds to what was found, and what
waits after it, are told here by membership. -/

/-- What is found is extended by what is new, in order. -/
theorem found_foldl_find (s : Search) (qs : List String) :
    (qs.foldl find s).found = keepFirsts s.found qs := by
  induction qs generalizing s with
  | nil => rfl
  | cons q qs ih =>
    have first : (s.find q).found = keepFirst s.found q := by
      unfold find keepFirst
      simp only [List.contains_iff_mem]
      split <;> rfl
    rw [List.foldl_cons, ih, first]
    rfl

/-- What is found for the first time waits. A part that comes twice is new only once, which makes no
difference to what waits. -/
theorem mem_waiting_foldl_find_iff :
    q ∈ (qs.foldl find s).waiting ↔ q ∈ s.waiting ∨ (q ∈ qs ∧ q ∉ s.found) := by
  induction qs generalizing s with
  | nil => simp
  | cons r qs ih =>
    rw [List.foldl_cons, ih, find]
    split
    · rename_i known
      rw [List.mem_cons]
      refine or_congr_right (and_congr_left fun new => ?_)
      have other : q ≠ r := fun same => new (same ▸ known)
      exact (or_iff_right other).symm
    · rename_i new
      simp only [List.mem_append, List.mem_cons, not_or]
      by_cases same : q = r
      · subst same
        simp [new]
      · simp [same]

/-! ## Every search comes to an end

A search has more to do the more links lead to parts that were not found, and the more projects
wait. A part that is found moves from the first number to the second, and may take several links
with it; the project that is taken is gone from the second. -/

/-- The number of projects that wait, and of links to parts that have not been found. Links and
projects are added up, since a link that is used turns into at most one project that waits. -/
def size (w : Warehouse) (s : Search) : Nat :=
  w.missing s.found + s.waiting.length

/-- To find a part makes a search no larger. -/
theorem size_find_le (part : w.HasPart p q) : (s.find q).size w ≤ s.size w := by
  unfold find
  split
  · exact Nat.le_refl _
  · rename_i new
    have fewer : w.missing (s.found ++ [q]) < w.missing s.found :=
      missing_lt_of_subset (List.subset_append_left _ _) part new
        (List.mem_append_right _ (List.mem_singleton.2 rfl))
    simp only [size, List.length_append, List.length_singleton]
    omega

/-- To find many parts makes a search no larger. -/
theorem size_foldl_find_le (parts : ∀ q ∈ qs, w.HasPart p q) :
    (qs.foldl find s).size w ≤ s.size w := by
  induction qs generalizing s with
  | nil => exact Nat.le_refl _
  | cons q qs ih =>
    rw [List.forall_mem_cons] at parts
    exact Nat.le_trans (ih parts.2) (size_find_le parts.1)

/-- **A step makes a search smaller.** -/
theorem Step.size_lt (step : Step w s s') : s'.size w < s.size w := by
  obtain ⟨found, before, after, p⟩ := step
  have parts := size_foldl_find_le (s := ⟨found, before ++ after⟩)
    fun q (hq : q ∈ w.partsOf p) => mem_partsOf_iff.1 hq
  refine Nat.lt_of_le_of_lt parts ?_
  simp only [size, List.length_append, List.length_cons]
  omega

/-- **No search goes on for ever**, whatever the links are like. -/
theorem wellFounded (w : Warehouse) : WellFounded fun s' s => Step w s s' :=
  Subrelation.wf (fun {_ _} step => step.size_lt) (measure (size w)).wf

/-- While a project waits, there is a step. -/
theorem exists_step (waits : s.waiting ≠ []) (w : Warehouse) : ∃ s', Step w s s' := by
  obtain ⟨found, waiting⟩ := s
  cases waiting with
  | nil => exact absurd rfl waits
  | cons p after => exact ⟨_, .take found [] after p⟩

/-- From any state, a search can be brought to its end. -/
theorem exists_leads (w : Warehouse) (s : Search) : ∃ s', Leads w s s' ∧ s'.waiting = [] := by
  induction s using (wellFounded w).induction with
  | _ s ih =>
    by_cases done : s.waiting = []
    · exact ⟨s, .refl, done⟩
    · obtain ⟨next, step⟩ := exists_step done w
      obtain ⟨s', leads, last⟩ := ih next step
      exact ⟨s', .head step leads, last⟩

/-! ## A search finds what can be reached

The invariant is in the middle between the beginning, where only the project is known, and the end,
where all is found. Its core is that a project which was taken has all its parts among what was
found. -/

/-- What is true of a search for the parts of a project at any time. The fourth condition is the one
that carries the proof: it says what is still to be done, and that only projects that wait are
concerned. -/
structure Sound (w : Warehouse) (p : String) (s : Search) : Prop where
  /-- The project was found first. -/
  first : ∃ rest, s.found = p :: rest
  /-- Nothing is found twice. -/
  nodup : s.found.Nodup
  /-- What is found can be reached. -/
  reaches : ∀ q ∈ s.found, w.Reaches p q
  /-- All parts are found of a project that does not wait. -/
  done : ∀ q ∈ s.found, q ∉ s.waiting → ∀ r, w.HasPart q r → r ∈ s.found
  /-- What waits has been found. -/
  known : s.waiting ⊆ s.found

/-- A search is sound at the start, where the only project waits. -/
theorem sound_start (w : Warehouse) (p : String) : (start p).Sound w p where
  first := ⟨[], rfl⟩
  nodup := List.nodup_singleton p
  reaches := fun q hq => by rw [List.mem_singleton.1 hq]; exact .refl
  done := fun _ hq idle => absurd hq idle
  known := List.Subset.refl _

/-- **A step keeps a search sound.** -/
theorem Sound.step (h : s.Sound w p) (step : Step w s s') : s'.Sound w p := by
  obtain ⟨found, before, after, q⟩ := step
  obtain ⟨rest, first⟩ := h.first
  have taken : q ∈ found := h.known (List.mem_append_right _ List.mem_cons_self)
  have mem_found : ∀ r, r ∈ ((w.partsOf q).foldl find ⟨found, before ++ after⟩).found ↔
      r ∈ found ∨ w.HasPart q r := fun r => by
    rw [found_foldl_find, mem_keepFirsts, mem_partsOf_iff]
  have mem_waiting : ∀ r, r ∈ ((w.partsOf q).foldl find ⟨found, before ++ after⟩).waiting ↔
      r ∈ before ++ after ∨ (w.HasPart q r ∧ r ∉ found) := fun r => by
    rw [mem_waiting_foldl_find_iff, mem_partsOf_iff]
  have others : ∀ r, r ∈ before ++ after → r ∈ before ++ q :: after := fun r there => by
    simp only [List.mem_append, List.mem_cons] at there ⊢
    exact there.imp_right .inr
  refine ⟨?_, ?_, fun r hr => ?_, fun r hr idle t part => ?_, fun r hr => ?_⟩
  · obtain ⟨parts, all⟩ := exists_keepFirsts_cons p rest (w.partsOf q)
    refine ⟨parts, ?_⟩
    rw [found_foldl_find, show found = p :: rest from first, all]
  · rw [found_foldl_find]
    exact nodup_keepFirsts h.nodup
  · rcases (mem_found r).1 hr with before | part
    · exact h.reaches r before
    · exact (h.reaches q taken).tail part
  · -- the parts of the project that was taken are found now, those of others were before
    rw [mem_waiting, not_or] at idle
    refine (mem_found t).2 ?_
    by_cases same : r = q
    · exact .inr (same ▸ part)
    · have before : r ∈ found :=
        ((mem_found r).1 hr).elim id fun part => by_contra fun new => idle.2 ⟨part, new⟩
      refine .inl (h.done r before (fun waits => idle.1 ?_) t part)
      simp only [List.mem_append, List.mem_cons] at waits ⊢
      exact waits.imp_right fun later => later.resolve_left same
  · rw [mem_found]
    exact ((mem_waiting r).1 hr).imp (fun there => h.known (others r there)) And.left

/-- **A search stays sound.** -/
theorem Sound.leads (h : s.Sound w p) (leads : Leads w s s') : s'.Sound w p := by
  induction leads with
  | refl => exact h
  | tail _ step ih => exact ih.step step

/-- A search that is over has found what can be reached. -/
theorem Sound.mem_found_iff (h : s.Sound w p) (ended : s.waiting = []) :
    q ∈ s.found ↔ w.Reaches p q := by
  have closed : w.Closed s.found := fun r hr t part =>
    h.done r hr (by rw [ended]; exact List.not_mem_nil) t part
  obtain ⟨rest, first⟩ := h.first
  exact ⟨h.reaches q, closed.mem_of_reaches (first ▸ List.mem_cons_self)⟩

/-- **A search that is over has found the tree of the project.** -/
theorem Sound.perm_projectTree (h : s.Sound w p) (ended : s.waiting = []) :
    s.found.Perm (w.projectTree p) := by
  refine (List.perm_ext_iff_of_nodup h.nodup (w.nodup_projectTree p)).2 fun q => ?_
  rw [h.mem_found_iff ended, mem_projectTree_iff]

end Search

/-! ## The theorem

Rounds and searches do different things in different orders, and meet in what can be reached. -/

/-- **The tree of a project is what can be reached from it, and any search finds it.** It begins
with the project and has no repeats. Whatever the links between projects are and whichever projects
are taken first, no search goes on for ever, and one that is over has found the tree, the project
first.

Nothing is asked of the warehouse. The links may lead in circles and to projects that have no
record, and the project may be one that nobody has named; its tree is then the project alone. That
searches come to an end is stated as well-foundedness, of all of them at once, and that one of them
ends is stated beside it, as a search without steps would end in no good sense. -/
theorem projectTree_eq_search (w : Warehouse) (p : String) :
    ((∃ parts, w.projectTree p = p :: parts) ∧ (w.projectTree p).Nodup ∧
        ∀ q, q ∈ w.projectTree p ↔ w.Reaches p q) ∧
      (WellFounded fun s' s => Search.Step w s s') ∧
      (∃ s, Search.Leads w (.start p) s ∧ s.waiting = []) ∧
      ∀ s, Search.Leads w (.start p) s → s.waiting = [] →
        (∃ rest, s.found = p :: rest) ∧ s.found.Perm (w.projectTree p) := by
  obtain ⟨parts, _, tree⟩ := w.exists_projectTree_cons p
  refine ⟨⟨⟨_, tree⟩, w.nodup_projectTree p, fun q => mem_projectTree_iff⟩,
    Search.wellFounded w, Search.exists_leads w _, fun s leads ended => ?_⟩
  have sound := (Search.sound_start w p).leads leads
  exact ⟨sound.first, sound.perm_projectTree ended⟩

/-- Projects that nothing else is known about: two are parts of one, have a part in common, and this
is a part of itself and of the whole. -/
def tangle : Warehouse :=
  { empty with
    projectChildren := [⟨"a", "c"⟩, ⟨"a", "b"⟩, ⟨"b", "d"⟩, ⟨"c", "d"⟩, ⟨"d", "d"⟩, ⟨"d", "a"⟩,
      ⟨"x", "a"⟩] }

/-- The search that takes the project found last finds the tree in another order. -/
theorem projectTree_eq_search_tangle :
    Search.Leads tangle (.start "a") ⟨["a", "c", "b", "d"], []⟩ ∧
      tangle.projectTree "a" = ["a", "b", "c", "d"] ∧
      ["a", "c", "b", "d"].Perm (tangle.projectTree "a") ∧ ¬ tangle.Reaches "a" "x" := by
  have leads : Search.Leads tangle (.start "a") ⟨["a", "c", "b", "d"], []⟩ :=
    ((((Relation.ReflTransGen.refl).tail (.take ["a"] [] [] "a")).tail
      (.take ["a", "c", "b"] ["c"] [] "b")).tail (.take ["a", "c", "b", "d"] ["c"] [] "d")).tail
      (.take ["a", "c", "b", "d"] [] [] "c")
  obtain ⟨⟨_, _, reached⟩, _, _, finds⟩ := tangle.projectTree_eq_search "a"
  have tree : tangle.projectTree "a" = ["a", "b", "c", "d"] := by cbv
  refine ⟨leads, tree, (finds _ leads rfl).2, fun h => ?_⟩
  have absent : "x" ∉ ["a", "b", "c", "d"] := by decide
  exact absent (tree ▸ (reached "x").2 h)

end ActivityMetrics.Warehouse
