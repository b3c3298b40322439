import ActivityMetrics.Filter.Basic
import Mathlib.Logic.Relation

/-!
# What a filter says

A filter is read through the entries of its selection: dimensions with values, or a single dimension
without one. Whatever else is asked of a filter – whether it groups, what has to match – is said by
them (`Filter.coherent`), so the parts of a filter cannot contradict each other, and a filter that
groups and binds at once does not exist.

A change of the window changes the window and nothing else, so a whole chain of changes does not
either (`Filter.eq_of_moves`). This is what a trend and a series do with the filter that they are
given, and why their statements compare answers that differ in nothing but time.
-/

namespace ActivityMetrics

open Calendar

/-! ## Selections -/

namespace Selection

variable {s t : Selection} {d : Dimension}

theorem pairs_eq (s : Selection) :
    s.pairs = s.entries.filterMap fun e => e.2.map fun v => (e.1, v) := by
  cases s with
  | bound ps =>
    rw [entries, List.filterMap_map]
    exact List.filterMap_some.symm
  | every d => rfl

/-- Whatever is bound has a value. -/
theorem not_mem_entries_bound (ps : List (Dimension × String)) :
    (d, none) ∉ (Selection.bound ps).entries := by
  intro there
  obtain ⟨_, _, valued⟩ := List.mem_map.1 there
  cases valued

theorem group?_eq_some_iff : s.group? = some d ↔ s.entries = [(d, none)] := by
  cases s with
  | bound ps =>
    refine iff_of_false nofun fun same => not_mem_entries_bound ps (d := d) ?_
    rw [same]
    exact List.mem_singleton.2 rfl
  | every d' => simp [group?, entries]

/-- A selection is known by its entries. So what is read from somewhere as entries stands for one
selection at most. -/
theorem entries_injective : Function.Injective entries := by
  intro s t same
  cases ht : t with
  | every d =>
    have grouping : t.group? = some d := by rw [ht]; rfl
    have also := group?_eq_some_iff.2 (same.trans (group?_eq_some_iff.1 grouping))
    cases s with
    | bound => cases also
    | every d' => exact congrArg every (Option.some.inj also)
  | bound ps =>
    subst ht
    cases s with
    | every d =>
      have grouping := group?_eq_some_iff.2 same.symm
      cases grouping
    | bound qs =>
      have pairs := (pairs_eq (.bound qs)).trans (by rw [same, ← pairs_eq])
      exact congrArg bound pairs

/-- A selection restricts nothing, or binds every dimension that it names, or breaks down by a
single one. There is no fourth kind, which a list of entries alone would allow. -/
theorem entries_cases (s : Selection) :
    s.entries = [] ∨ (s.entries ≠ [] ∧ ∀ e ∈ s.entries, e.2.isSome) ∨
      ∃ d, s.entries = [(d, none)] := by
  cases s with
  | every d => exact .inr (.inr ⟨d, rfl⟩)
  | bound ps =>
    by_cases empty : ps = []
    · exact .inl (by rw [empty]; rfl)
    · exact .inr (.inl ⟨by simpa [entries] using empty, List.forall_mem_map.2 fun _ _ => rfl⟩)

end Selection

namespace Filter

variable {f g h : Filter} {start stop : Date}

/-- A filter that restricts nothing but the window. Every request starts from it, so it is also what
is left of a request that asks for nothing. -/
def plain (start stop : Date) (h : start < stop) : Filter :=
  { period := .month
    start
    stop
    start_lt_stop := h
    selection := .bound []
    limit := none
    excludedActors := []
    excludedOrganizations := []
    global := none
    closing := none }

/-! ## Changes of the window -/

theorem withWindow_eq_ok_iff :
    f.withWindow start stop = .ok g ↔
      ∃ h : start < stop, g = { f with start, stop, start_lt_stop := h } := by
  unfold withWindow
  split
  · rename_i h
    constructor
    · rintro ⟨⟩
      exact ⟨h, rfl⟩
    · rintro ⟨_, rfl⟩
      rfl
  · rename_i empty
    exact ⟨nofun, fun ⟨h, _⟩ => absurd h empty⟩

theorem selection_withWindow (h : f.withWindow start stop = .ok g) :
    g.selection = f.selection := by
  obtain ⟨_, rfl⟩ := withWindow_eq_ok_iff.1 h
  rfl

theorem group?_withWindow (h : f.withWindow start stop = .ok g) : g.group? = f.group? :=
  congrArg Selection.group? (selection_withWindow h)

theorem limit_withWindow (h : f.withWindow start stop = .ok g) : g.limit = f.limit := by
  obtain ⟨_, rfl⟩ := withWindow_eq_ok_iff.1 h
  rfl

theorem exists_withWindow (f : Filter) (h : start.day < stop.day) :
    ∃ g, f.withWindow start stop = .ok g :=
  ⟨_, withWindow_eq_ok_iff.2 ⟨h, rfl⟩⟩

/-- One filter comes from another by changes of the window, of which there may be none or many. A
trend makes two of them. -/
abbrev Moves : Filter → Filter → Prop :=
  Relation.ReflTransGen fun f g => ∃ start stop, f.withWindow start stop = .ok g

/-- **Changes of the window change nothing else.** The induction is on the chain: every change
replaces the ends of the window, and forgets the ends before. -/
theorem eq_of_moves (h : f.Moves g) :
    g = { f with start := g.start, stop := g.stop, start_lt_stop := g.start_lt_stop } := by
  induction h with
  | refl => rfl
  | tail _ change ih =>
    obtain ⟨_, _, moved⟩ := change
    obtain ⟨_, rfl⟩ := withWindow_eq_ok_iff.1 moved
    rw [ih]

/-! ## The parts of a filter agree -/

/-- The parts of a filter agree with each other, and its window can be changed. A filter is read by
several functions, for what has to match, for what is broken down and for whether it groups at all,
and each of them looks at the selection for itself. That they agree is what is stated here. -/
structure Coherent (f : Filter) : Prop where
  /-- The window holds a day. -/
  window : f.start < f.stop
  /-- The selection restricts nothing, or binds all of its dimensions, or groups by a single
  one. -/
  selection : f.selection.entries = [] ∨
    (f.selection.entries ≠ [] ∧ ∀ e ∈ f.selection.entries, e.2.isSome) ∨
    ∃ d, f.selection.entries = [(d, none)]
  /-- The filter groups when its selection is a dimension without a value. -/
  grouping : f.isGrouping ↔ ∃ d, f.selection.entries = [(d, none)]
  /-- That dimension is the one that is broken down. -/
  group : ∀ d, f.group? = some d ↔ f.selection.entries = [(d, none)]
  /-- What has to match is what the selection binds, in its order, and the global pair at last. -/
  bindings : f.bindings
    = (f.selection.entries.filterMap fun e => e.2.map fun v => (e.1, v)) ++ f.global.toList
  /-- A window that holds a day may take the place of the window, and nothing else changes. -/
  moves : ∀ start stop g, f.withWindow start stop = .ok g ↔
    ∃ h : start < stop, g = { f with start, stop, start_lt_stop := h }
  /-- Any other window is refused. -/
  refuses : ∀ start stop, ¬ start < stop →
    f.withWindow start stop = .error (.filter (.emptyWindow start stop))

/-- The parts of every filter agree. Nothing is asked of the way in which the filter came about. -/
theorem coherent (f : Filter) : f.Coherent where
  window := f.start_lt_stop
  selection := f.selection.entries_cases
  grouping := by
    rw [isGrouping, Option.isSome_iff_exists]
    exact exists_congr fun d => Selection.group?_eq_some_iff
  group _ := Selection.group?_eq_some_iff
  bindings := by rw [bindings, Selection.pairs_eq]
  moves _ _ _ := withWindow_eq_ok_iff
  refuses _ _ empty := dif_neg empty

end Filter

end ActivityMetrics
