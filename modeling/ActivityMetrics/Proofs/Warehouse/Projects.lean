import ActivityMetrics.Proofs.Distinct
import ActivityMetrics.Warehouse.Lookup
import Mathlib.Logic.Relation

/-!
# Trees of projects

The tree of a project is found in rounds, each of which adds the parts of all projects found so far.
A round that adds nothing leaves nothing to add. Every other round finds the part of a link that led
out of the projects before, so there are no more such rounds than links, whatever the links are
like: projects may be parts of each other or of themselves, and be part of several. The tree is
therefore what can be reached from the project (`Warehouse.mem_projectTree_iff`).

The number of rounds is fixed in advance, and this needs a reason. A depth of the tree cannot be the
bound, since with projects that are parts of each other there is none. The number of projects could
be, but a link may lead to a project that has no record of its own. Links are all there is to
follow, and a link whose part is not yet found is used at most once.
-/

namespace ActivityMetrics.Warehouse

variable {w w' : Warehouse} {p q : String} {ps ps' : List String}

/-- One project is part of another. This is read off the links alone; a project may be part of
itself. -/
def HasPart (w : Warehouse) (whole part : String) : Prop :=
  ⟨whole, part⟩ ∈ w.projectChildren

/-- An operation that makes one project part of another does so, also if it was that before. -/
theorem hasPart_addSubproject (w : Warehouse) (parent child : String) :
    (w.addSubproject parent child).HasPart parent child := by
  unfold addSubproject HasPart
  dsimp only
  split
  · assumption
  · exact List.mem_append_right _ (List.mem_singleton.2 rfl)

/-- A project is part of another, directly, through other projects, or as the project itself. With
links that lead in a circle, two projects are parts of each other. -/
def Reaches (w : Warehouse) : String → String → Prop :=
  Relation.ReflTransGen w.HasPart

/-- More links do not make a project less reachable. -/
theorem Reaches.mono (more : w.projectChildren ⊆ w'.projectChildren) (h : w.Reaches p q) :
    w'.Reaches p q :=
  Relation.ReflTransGen.mono (fun _ _ part => more part) _ _ h

/-! ## Rounds

What is found is a list that only grows, and everything on it can be reached from where the search
began. -/

/-- The parts of a project are listed as its links say. -/
theorem mem_partsOf_iff : q ∈ w.partsOf p ↔ w.HasPart p q := by
  simp only [partsOf, List.mem_map, List.mem_filter, beq_iff_eq]
  constructor
  · rintro ⟨link, ⟨known, rfl⟩, rfl⟩
    exact known
  · intro known
    exact ⟨⟨p, q⟩, ⟨known, rfl⟩, rfl⟩

/-- A round adds the parts of what is there. -/
theorem mem_withParts_iff : q ∈ w.withParts ps ↔ q ∈ ps ∨ ∃ p ∈ ps, w.HasPart p q := by
  rw [withParts, mem_keepFirsts, List.mem_flatMap]
  simp only [mem_partsOf_iff]

/-- Rounds take nothing away. -/
theorem subset_withPartsTimes (n : Nat) (ps : List String) : ps ⊆ w.withPartsTimes n ps := by
  induction n generalizing ps with
  | zero => exact List.Subset.refl _
  | succ n ih => exact fun p hp => ih (w.withParts ps) (mem_withParts_iff.2 (.inl hp))

/-- **Only what can be reached is found.** -/
theorem exists_reaches_of_mem (n : Nat) (h : q ∈ w.withPartsTimes n ps) :
    ∃ p ∈ ps, w.Reaches p q := by
  induction n generalizing ps with
  | zero => exact ⟨q, h, .refl⟩
  | succ n ih =>
    obtain ⟨r, hr, reaches⟩ := ih h
    rcases mem_withParts_iff.1 hr with before | ⟨p, hp, part⟩
    · exact ⟨r, before, reaches⟩
    · exact ⟨p, hp, .head part reaches⟩

/-! ## The last round

A list that has all parts of its projects is *closed*, and further rounds do not change what it
contains. A round either begins with a closed list, or makes the number of links that lead out of
the list smaller. -/

/-- The parts of all projects of a list are in the list. Nothing can then be reached from it that is
not in it. -/
def Closed (w : Warehouse) (ps : List String) : Prop :=
  ∀ p ∈ ps, ∀ q, w.HasPart p q → q ∈ ps

/-- What can be reached from a closed list is in it. -/
theorem Closed.mem_of_reaches (closed : w.Closed ps) (hp : p ∈ ps) (h : w.Reaches p q) :
    q ∈ ps := by
  induction h with
  | refl => exact hp
  | tail _ part ih => exact closed _ ih _ part

/-- A round leaves a closed list closed. -/
theorem Closed.withParts (closed : w.Closed ps) : w.Closed (w.withParts ps) := by
  have same : ∀ r, r ∈ w.withParts ps ↔ r ∈ ps := fun r => by
    rw [mem_withParts_iff]
    exact or_iff_left_of_imp fun ⟨p, hp, part⟩ => closed p hp r part
  intro p hp q part
  rw [same] at hp ⊢
  exact closed p hp q part

/-- Any number of rounds leaves a closed list closed. -/
theorem Closed.withPartsTimes (closed : w.Closed ps) (n : Nat) :
    w.Closed (w.withPartsTimes n ps) := by
  induction n generalizing ps with
  | zero => exact closed
  | succ n ih => exact ih closed.withParts

/-- The number of links to a part that is not in a list. A link counts wherever it begins, also at a
project that is not in the list. -/
def missing (w : Warehouse) (ps : List String) : Nat :=
  w.projectChildren.countP fun link => link.child ∉ ps

/-- A part that is found is no longer missing. -/
theorem missing_lt_of_subset (more : ps ⊆ ps') (part : w.HasPart p q) (new : q ∉ ps)
    (found : q ∈ ps') : w.missing ps' < w.missing ps := by
  refine countP_lt_countP (fun link absent => ?_) part (decide_eq_true new) fun absent => ?_
  · exact decide_eq_true fun there => of_decide_eq_true absent (more there)
  · exact of_decide_eq_true absent found

/-- **A round finds a missing part**, unless the list is closed. -/
theorem missing_withParts_lt (h : ¬ w.Closed ps) : w.missing (w.withParts ps) < w.missing ps := by
  unfold Closed at h
  push Not at h
  obtain ⟨p, hp, q, part, new⟩ := h
  exact missing_lt_of_subset (fun r there => mem_withParts_iff.2 (.inl there)) part new
    (mem_withParts_iff.2 (.inr ⟨p, hp, part⟩))

/-- **As many rounds as parts are missing are enough.** -/
theorem closed_withPartsTimes {n : Nat} (enough : w.missing ps ≤ n) :
    w.Closed (w.withPartsTimes n ps) := by
  induction n generalizing ps with
  | zero =>
    intro p hp q part
    have none_missing := List.countP_eq_zero.1 (Nat.le_zero.1 enough) ⟨p, q⟩ part
    exact Decidable.byContradiction fun absent => none_missing (decide_eq_true absent)
  | succ n ih =>
    by_cases closed : w.Closed ps
    · exact closed.withPartsTimes (n + 1)
    · exact ih (Nat.le_of_lt_succ (Nat.lt_of_lt_of_le (missing_withParts_lt closed) enough))

/-! ## The tree

The rounds give the projects in the order in which they are found. The tree has the project itself
first, and the others by name. -/

/-- A project in front stays in front. -/
theorem exists_withPartsTimes_cons (n : Nat) (p : String) (ps : List String) :
    ∃ rest, w.withPartsTimes n (p :: ps) = p :: rest := by
  induction n generalizing ps with
  | zero => exact ⟨ps, rfl⟩
  | succ n ih =>
    obtain ⟨rest, first⟩ := exists_keepFirsts_cons p ps ((p :: ps).flatMap w.partsOf)
    have round : w.withParts (p :: ps) = p :: rest := first
    obtain ⟨rest, found⟩ := ih rest
    exact ⟨rest, by rw [withPartsTimes, round, found]⟩

/-- **The tree of a project begins with it**, and the rest is what was found, in order. -/
theorem exists_projectTree_cons (w : Warehouse) (p : String) :
    ∃ parts, w.withPartsTimes w.projectChildren.length [p] = p :: parts ∧
      w.projectTree p = p :: parts.mergeSort (· ≤ ·) := by
  obtain ⟨parts, found⟩ := exists_withPartsTimes_cons (w := w) w.projectChildren.length p []
  exact ⟨parts, found, by rw [projectTree, found]⟩

/-- The tree has what was found, in another order. -/
theorem projectTree_perm (w : Warehouse) (p : String) :
    (w.projectTree p).Perm (w.withPartsTimes w.projectChildren.length [p]) := by
  obtain ⟨parts, found, tree⟩ := w.exists_projectTree_cons p
  rw [found, tree]
  exact (List.mergeSort_perm _ _).cons p

/-- A round adds nothing twice, though several projects may have a part in common. -/
theorem nodup_withPartsTimes (n : Nat) (h : ps.Nodup) : (w.withPartsTimes n ps).Nodup := by
  induction n generalizing ps with
  | zero => exact h
  | succ n ih => exact ih (nodup_keepFirsts h)

/-- No project is listed twice. -/
theorem nodup_projectTree (w : Warehouse) (p : String) : (w.projectTree p).Nodup :=
  (w.projectTree_perm p).nodup_iff.2 (nodup_withPartsTimes _ (List.nodup_singleton p))

/-- **The tree of a project is what can be reached from it.** -/
theorem mem_projectTree_iff : q ∈ w.projectTree p ↔ w.Reaches p q := by
  rw [(w.projectTree_perm p).mem_iff]
  constructor
  · intro found
    obtain ⟨r, hr, reaches⟩ := exists_reaches_of_mem _ found
    rwa [List.mem_singleton.1 hr] at reaches
  · exact (closed_withPartsTimes List.countP_le_length).mem_of_reaches
      (subset_withPartsTimes _ _ List.mem_cons_self)

end ActivityMetrics.Warehouse
