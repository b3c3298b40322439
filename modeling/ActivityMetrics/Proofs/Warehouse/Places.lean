import ActivityMetrics.Proofs.Warehouse.References

/-!
# Where events happen

A commit is added to a repository that is there, and an issue to a tracker that is there.
Repositories and trackers keep the number that they were given, and none is taken away, so in a
reachable warehouse every commit and every issue has exactly one place
(`Warehouse.Reachable.housed`).

Exactly one is what counts by place rest on. If an event had no place, the counts of the places
together would be less than the count of all events, and if it had two they would be more. Of the
two kinds of place only trackers are kept as they are named; a repository is a record that has a
place of its own to be found at, and it may be rewritten when it is named again. What is shared by
both is the directory, and the invariant is stated for it.
-/

namespace ActivityMetrics.Warehouse

variable {w w' : Warehouse}

/-- The number of a place leads to one place, and that of a commit or an issue to a place. Numbers
of repositories and of trackers may be the same, so each kind of event has places of its own. -/
structure Housed (w : Warehouse) : Prop where
  /-- The places of a source have different numbers. -/
  places : ∀ source, ((w.places source).map (·.id)).Nodup
  /-- The repository of a commit is known. -/
  commits : ∀ x ∈ w.commits, ∃ p ∈ w.places .scm, p.id = x.repository
  /-- The tracker of an issue is known. -/
  issues : ∀ i ∈ w.issues, ∃ p ∈ w.places .its, p.id = i.tracker

/-- There are no events at the start. -/
theorem housed_empty : empty.Housed :=
  ⟨fun source => by cases source <;> exact List.nodup_nil, nofun, nofun⟩

/-- A number leads to one place. -/
theorem Housed.place_unique (h : w.Housed) {source : Source} {p q : Entity}
    (hp : p ∈ w.places source) (hq : q ∈ w.places source) (same : p.id = q.id) : p = q :=
  List.inj_on_of_nodup_map (h.places source) hp hq same

/-- Commits and issues that were there before keep their places. Of an issue only the tracker
matters, so a new status does not make it another. -/
theorem Housed.of_edit (h : w.Housed) (edit : w.Edit w')
    (commits : ∀ x ∈ w'.commits, x ∈ w.commits ∨ ∃ p ∈ w.places .scm, p.id = x.repository)
    (issues : ∀ i ∈ w'.issues,
      (∃ j ∈ w.issues, j.tracker = i.tracker) ∨ ∃ p ∈ w.places .its, p.id = i.tracker) :
    w'.Housed := by
  have kept : ∀ {source id}, (∃ p ∈ w.places source, p.id = id) →
      ∃ p ∈ w'.places source, p.id = id := by
    rintro source id ⟨p, known, same⟩
    exact ⟨p, (entries_isPrefix_of_edit edit (.places source)).subset known, same⟩
  refine ⟨fun source => nodup_ids_of_edit edit (.places source) (h.places source),
    fun x hx => ?_, fun i hi => ?_⟩
  · rcases commits x hx with old | place
    · exact kept (h.commits x old)
    · exact kept place
  · rcases issues i hi with ⟨j, old, same⟩ | place
    · exact kept (same ▸ h.issues j old)
    · exact kept place

/-- **An edit keeps every event in its place.** -/
theorem Housed.edit (h : w.Housed) (edit : w.Edit w') : w'.Housed := by
  have old : ∀ i ∈ w.issues, (∃ j ∈ w.issues, j.tracker = i.tracker) ∨
      ∃ p ∈ w.places .its, p.id = i.tracker := fun i hi => .inl ⟨i, hi, rfl⟩
  have kept := h.of_edit edit
  cases edit with
  | commit _ _ _ _ _ place =>
    refine kept (fun x hx => (List.mem_append.1 hx).imp_right fun new => ?_) old
    obtain ⟨r, known, same⟩ := place
    rw [List.mem_singleton.1 new]
    exact ⟨⟨r.id, r.name⟩, List.mem_map.2 ⟨r, known, rfl⟩, same⟩
  | issue _ _ _ _ place =>
    refine kept (fun _ => .inl) fun i hi => ?_
    rcases List.mem_append.1 hi with there | new
    · exact old i there
    · rw [List.mem_singleton.1 new]
      exact .inr place
  | status =>
    refine kept (fun _ => .inl) fun i hi => ?_
    -- a new status keeps the tracker of an issue
    obtain ⟨j, there, rfl⟩ := List.mem_map.1 hi
    refine .inl ⟨j, there, ?_⟩
    split <;> rfl
  | group kind => cases kind <;> exact kept (fun _ => .inl) old
  | person | bot | link | enrollment | project | part | attachment | repository | tracker | change
  | setting => exact kept (fun _ => .inl) old

/-- **In a reachable warehouse every event has one place.** -/
theorem Reachable.housed (h : w.Reachable) : w.Housed :=
  h.of_edit housed_empty Housed.edit

end ActivityMetrics.Warehouse
