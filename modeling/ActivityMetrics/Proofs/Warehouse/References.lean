import ActivityMetrics.Proofs.Warehouse.Directories

/-!
# Records that others refer to

An enrollment names its group by number, and a change its issue. The number of a group is given out
once, and a change is only added to an issue that is there. Issues are never taken away, so in a
reachable warehouse a number leads to one group, and every change to an issue
(`Warehouse.Reachable.coherent`).

These are the references that queries follow when they join tables. A join does not complain about a
number that leads nowhere; it drops the row. One that leads to two records doubles the row. Either
would spoil a count without a trace, and what excludes them is a property of the warehouse and
cannot be one of the query.
-/

namespace ActivityMetrics.Warehouse

variable {w w' : Warehouse}

/-- The number of a group leads to one group, and that of the issue of a change to an issue. These
are the two numbers that a query follows from one record to the next. -/
structure Coherent (w : Warehouse) : Prop where
  /-- The groups of a kind have different numbers. -/
  groups : ∀ kind, ((w.entities kind).map (·.id)).Nodup
  /-- The issue of a change is known. -/
  changes : ∀ x ∈ w.changes, ∃ i ∈ w.issues, i.id = x.issue

/-- There is nothing to refer to at the start. -/
theorem coherent_empty : empty.Coherent :=
  ⟨fun kind => by cases kind <;> exact List.nodup_nil, nofun⟩

/-- The issues of changes are known when another change is added to a known issue. -/
theorem Coherent.changes_append (h : w.Coherent) {x : Change}
    (known : ∃ i ∈ w.issues, i.id = x.issue) :
    ∀ y ∈ w.changes ++ [x], ∃ i ∈ w.issues, i.id = y.issue := by
  intro y hy
  rcases List.mem_append.1 hy with old | new
  · exact h.changes y old
  · rw [List.mem_singleton.1 new]
    exact known

/-- **An edit keeps references whole.** -/
theorem Coherent.edit (h : w.Coherent) (edit : w.Edit w') : w'.Coherent := by
  refine ⟨fun kind => nodup_ids_of_edit edit (.groups kind) (h.groups kind), ?_⟩
  cases edit with
  | group kind => cases kind <;> exact h.changes
  | issue =>
    intro x hx
    obtain ⟨i, known, same⟩ := h.changes x hx
    exact ⟨i, List.mem_append_left _ known, same⟩
  | change _ _ _ _ _ _ known => exact h.changes_append known
  | status _ _ _ _ known =>
    intro x hx
    -- a new status keeps the number of an issue
    obtain ⟨i, known, same⟩ := h.changes_append known x hx
    refine ⟨_, List.mem_map_of_mem known, ?_⟩
    split <;> exact same
  | person | bot | link | enrollment | project | part | attachment | repository | commit | tracker
  | setting => exact h.changes

/-- **In a reachable warehouse references are whole.** -/
theorem Reachable.coherent (h : w.Reachable) : w.Coherent :=
  h.of_edit coherent_empty Coherent.edit

end ActivityMetrics.Warehouse
