import ActivityMetrics.Proofs.Warehouse.Edits
import Mathlib.Data.List.Nodup

/-!
# Records and their numbers

Records of a kind are told apart by number. A new record has a number that no other has, and the
link of a raw actor takes the place of the one before it. So whatever is loaded, no two links, no
two commits and no two issues have the same number (`Warehouse.Reachable.keyed`).

The number of a new record is one more than the greatest in use, and therefore new. The number of a
raw actor is not given out but comes from outside, and may come again, also from another source of
data and for another person. What keeps it unique is that the new link is put in the place of the
old one. Thus a raw actor has one link (`Warehouse.filter_putIdentity_self`), and it may not be the
link that was asked for first.
-/

namespace ActivityMetrics

/-- All numbers in use are less than the next. -/
theorem lt_nextId_of_mem {ids : List Int} {i : Int} (h : i ∈ ids) : i < nextId ids := by
  cases ids with
  | nil => cases h
  | cons first rest =>
    have greatest : (first :: rest).max? = some (rest.foldl max first) := List.max?_cons'
    exact Int.lt_add_one_of_le ((List.max?_eq_some_iff.1 greatest).2 i h)

/-- **The number of a new record is new.** -/
theorem nextId_not_mem (ids : List Int) : nextId ids ∉ ids :=
  fun there => Int.lt_irrefl _ (lt_nextId_of_mem there)

/-- A record with the next number keeps the numbers apart. -/
theorem nodup_append_nextId {ids : List Int} (h : ids.Nodup) : (ids ++ [nextId ids]).Nodup := by
  refine List.nodup_append.2 ⟨h, List.pairwise_singleton _ _, fun i hi j hj same => ?_⟩
  rw [List.mem_singleton.1 hj] at same
  exact nextId_not_mem ids (same ▸ hi)

namespace Warehouse

/-! ## Links from raw actors

To put a link rewrites a list at the first record of its number, or adds to the end. If numbers
differ there is only one such record, and only then is the old link gone for sure. -/

/-- The other links stay as they are. -/
theorem filter_putIdentity_of_ne {a : Int} (new : Identity) (other : a ≠ new.id)
    (is : List Identity) :
    (putIdentity new is).filter (·.id = a) = is.filter (·.id = a) := by
  have skip : ∀ rest : List Identity, (new :: rest).filter (·.id = a) = rest.filter (·.id = a) :=
    fun _ => List.filter_cons_of_neg fun same => other (of_decide_eq_true same).symm
  induction is with
  | nil => exact skip []
  | cons i is ih =>
    unfold putIdentity
    split
    · rename_i same
      rw [skip, List.filter_cons_of_neg fun h => other ((of_decide_eq_true h).symm.trans same)]
    · rw [List.filter_cons, List.filter_cons, ih]

/-- A link that is there was there before, or was put. -/
theorem mem_putIdentity {new i : Identity} {is : List Identity} (h : i ∈ putIdentity new is) :
    i = new ∨ i ∈ is := by
  induction is with
  | nil => exact .inl (List.mem_singleton.1 h)
  | cons j is ih =>
    unfold putIdentity at h
    split at h
    · exact (List.mem_cons.1 h).imp_right (List.mem_cons_of_mem _)
    · rcases List.mem_cons.1 h with rfl | h
      · exact .inr List.mem_cons_self
      · exact (ih h).imp_right (List.mem_cons_of_mem _)

/-- A raw actor keeps one link. -/
theorem nodup_putIdentity {is : List Identity} (h : (is.map (·.id)).Nodup) (new : Identity) :
    ((putIdentity new is).map (·.id)).Nodup := by
  induction is with
  | nil => exact List.pairwise_singleton _ _
  | cons i is ih =>
    rw [List.map_cons, List.nodup_cons] at h
    unfold putIdentity
    split
    · rename_i same
      rw [List.map_cons, List.nodup_cons, ← same]
      exact h
    · rename_i other
      rw [List.map_cons, List.nodup_cons]
      refine ⟨fun there => ?_, ih h.2⟩
      obtain ⟨j, hj, same⟩ := List.mem_map.1 there
      rcases mem_putIdentity hj with rfl | hj
      · exact other same.symm
      · exact h.1 (List.mem_map.2 ⟨j, hj, same⟩)

/-- The link that is put is the only one of its raw actor. -/
theorem filter_putIdentity_self {is : List Identity} (h : (is.map (·.id)).Nodup)
    (new : Identity) : (putIdentity new is).filter (·.id = new.id) = [new] := by
  induction is with
  | nil => exact List.filter_cons_of_pos (decide_eq_true rfl)
  | cons i is ih =>
    rw [List.map_cons, List.nodup_cons] at h
    unfold putIdentity
    split
    · rename_i same
      rw [List.filter_cons, if_pos (decide_eq_true rfl), List.filter_eq_nil_iff.2]
      intro j hj there
      refine h.1 (List.mem_map.2 ⟨j, hj, ?_⟩)
      rw [same, of_decide_eq_true there]
    · rename_i other
      rw [List.filter_cons, if_neg fun there => other (of_decide_eq_true there), ih h.2]

/-! ## All records

Memberships and changes have numbers of their own too. Nothing refers to these, so they are treated
where the keys of all records are. -/

/-- No two records of a kind have the same number. These are the kinds whose records are looked up
by number: a person behind a raw actor, and a commit or an issue in a count of distinct ones. -/
structure Keyed (w : Warehouse) : Prop where
  /-- A raw actor has one link. -/
  identities : (w.identities.map (·.id)).Nodup
  /-- The commits have different numbers. -/
  commits : (w.commits.map (·.id)).Nodup
  /-- The issues have different numbers. -/
  issues : (w.issues.map (·.id)).Nodup

/-- There are no numbers at the start. -/
theorem keyed_empty : empty.Keyed :=
  ⟨List.nodup_nil, List.nodup_nil, List.nodup_nil⟩

/-- A new status does not change the number of an issue. -/
theorem map_id_withStatus (issues : List Issue) (issue : Int) (status : String) :
    (issues.map fun i => if i.id = issue then { i with status := some status } else i).map (·.id)
      = issues.map (·.id) := by
  rw [List.map_map]
  refine List.map_congr_left fun i _ => ?_
  rw [Function.comp_apply]
  split <;> rfl

/-- **An edit keeps numbers apart.** -/
theorem Keyed.edit {w w' : Warehouse} (h : w.Keyed) (edit : w.Edit w') : w'.Keyed := by
  cases edit with
  | link identity => exact ⟨nodup_putIdentity h.identities identity, h.commits, h.issues⟩
  | commit =>
    refine ⟨h.identities, ?_, h.issues⟩
    rw [List.map_append]
    exact nodup_append_nextId h.commits
  | issue =>
    refine ⟨h.identities, h.commits, ?_⟩
    rw [List.map_append]
    exact nodup_append_nextId h.issues
  | status =>
    refine ⟨h.identities, h.commits, ?_⟩
    rw [map_id_withStatus]
    exact h.issues
  | group kind => cases kind <;> exact ⟨h.identities, h.commits, h.issues⟩
  | person | bot | enrollment | project | part | attachment | repository | tracker | change
  | setting => exact ⟨h.identities, h.commits, h.issues⟩

/-- **A load operation keeps numbers apart**, also when it fails. -/
theorem Keyed.perform {w : Warehouse} (h : w.Keyed) (step : LoadStep) :
    (step.perform w).2.Keyed :=
  perform_of_edit Keyed.edit h step

/-- **In a reachable warehouse no two records of a kind have the same number.** -/
theorem Reachable.keyed {w : Warehouse} (h : w.Reachable) : w.Keyed :=
  h.of_edit keyed_empty Keyed.edit

end Warehouse

end ActivityMetrics
