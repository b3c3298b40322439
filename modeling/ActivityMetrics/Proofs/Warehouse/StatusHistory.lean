import ActivityMetrics.Proofs.Distinct
import ActivityMetrics.Proofs.Warehouse.References
import Mathlib.Data.List.Chain

/-!
# The history of a status

Every change of the status of an issue remembers the status before it and gives the issue a new one.
So the changes of a status hang together, whatever else happens between them: the first one
remembers none, each later one what the one before it has set, and the issue has the status that the
last one set (`Warehouse.status_follows_changes`). Changes have ascending numbers, so that their
order by number is the order in which they were made.

The status is kept twice, as a field of the issue and as the history of its changes, and the two are
written by different statements. They agree only because nothing else writes either of them, and
because a change that fails writes neither. Besides, the status is looked up by the number of the
issue, so the changes would get mixed up if two issues had the same number; and an issue that is
added could begin with changes of an earlier one, if a number were given out again or changes could
come before their issue. Therefore this invariant is proved together with two others, that numbers
are unique and that changes belong to issues.
-/

namespace ActivityMetrics.Warehouse

variable {w w' : Warehouse}

/-- The changes of the status of an issue, in the order in which they are kept. The name of the
field is what makes a change one of the status. -/
def statusChanges (changes : List Change) (issue : Int) : List Change :=
  changes.filter fun x => x.issue = issue ∧ x.field = statusField

/-- The changes of the status of an issue, by number. A reader who has only the records finds the
order by the numbers. -/
def statusHistory (w : Warehouse) (issue : Int) : List Change :=
  (statusChanges w.changes issue).mergeSort fun x y => x.id ≤ y.id

/-- Changes of a status hang together, and lead to the status in the end. The list is in the order
of time; of a list that is not, nothing of this would be true. -/
structure Follows (status : Option String) (xs : List Change) : Prop where
  /-- The first change finds no status. -/
  first : ∀ x, xs.head? = some x → x.oldValue = none
  /-- Every other change finds the status that the one before it has set. -/
  next : xs.IsChain fun x y => y.oldValue = some x.newValue
  /-- The last change sets the status. Without a change there is none. -/
  last : status = xs.getLast?.map (·.newValue)

/-- An issue without changes has no status. -/
theorem Follows.nil : Follows none [] :=
  ⟨nofun, .nil, rfl⟩

/-- One more change finds the status and sets it. -/
theorem Follows.append {status : Option String} {xs : List Change} (h : Follows status xs)
    {x : Change} (old : x.oldValue = status) : Follows (some x.newValue) (xs ++ [x]) := by
  refine ⟨fun y head => ?_, List.isChain_append.2 ⟨h.next, .singleton x, ?_⟩, ?_⟩
  · cases xs with
    | nil =>
      cases head
      rw [old, h.last]
      rfl
    | cons z zs => exact h.first y head
  · intro y last z hz
    cases hz
    rw [old, h.last, Option.mem_def.1 last]
    rfl
  · rw [List.getLast?_concat]
    rfl

/-! ## The invariant

Of all edits three matter. An issue is added, without a status; a change is added that is none of
the status; or a change of the status is added, and the status is set. -/

/-- The changes of an issue stay the same when another change is added that is not one of its
status. -/
theorem statusChanges_append_of_other {x : Change} {issue : Int}
    (other : ¬ (x.issue = issue ∧ x.field = statusField)) (changes : List Change) :
    statusChanges (changes ++ [x]) issue = statusChanges changes issue := by
  rw [statusChanges, List.filter_append, List.filter_cons_of_neg (by simpa using other),
    List.filter_nil, List.append_nil]
  rfl

/-- A change of the status of an issue is added to those of the issue. -/
theorem statusChanges_append_self {x : Change} (status : x.field = statusField)
    (changes : List Change) :
    statusChanges (changes ++ [x]) x.issue = statusChanges changes x.issue ++ [x] := by
  rw [statusChanges, List.filter_append, List.filter_cons_of_pos (by simpa using status)]
  rfl

/-- Numbers ascend when a change with the next number is added. -/
theorem ascending_append {changes : List Change} (h : changes.Pairwise fun x y => x.id < y.id)
    {x : Change} (number : x.id = nextId (changes.map (·.id))) :
    (changes ++ [x]).Pairwise fun x y => x.id < y.id := by
  refine List.pairwise_append.2 ⟨h, List.pairwise_singleton _ _, fun y hy z hz => ?_⟩
  rw [List.mem_singleton.1 hz, number]
  exact lt_nextId_of_mem (List.mem_map_of_mem hy)

/-- The changes have ascending numbers, and those of a status make it what it is. The history is
taken in the order in which changes were added, and so does not depend on the numbers; it is the
ascending numbers that let a reader find this order again. -/
structure Traced (w : Warehouse) : Prop where
  /-- A later change has a greater number. -/
  ascending : w.changes.Pairwise fun x y => x.id < y.id
  /-- Only changes of the status remember what was before. -/
  others : ∀ x ∈ w.changes, x.field ≠ statusField → x.oldValue = none
  /-- The changes of the status of an issue lead to its status. -/
  statuses : ∀ i ∈ w.issues, Follows i.status (statusChanges w.changes i.id)

/-- Nothing has happened at the start. -/
theorem traced_empty : empty.Traced :=
  ⟨.nil, nofun, nofun⟩

/-- The status of an issue is found by its number. -/
theorem statusOf_eq (keyed : w.Keyed) {i : Issue} (hi : i ∈ w.issues) :
    w.statusOf i.id = i.status := by
  rw [statusOf, find?_key_of_mem Issue.id keyed.issues hi]
  rfl

/-- An issue with a new number has no change yet. -/
theorem statusChanges_new (coherent : w.Coherent) :
    statusChanges w.changes (nextId (w.issues.map (·.id))) = [] := by
  refine List.filter_eq_nil_iff.2 fun x hx own => ?_
  obtain ⟨i, known, same⟩ := coherent.changes x hx
  refine nextId_not_mem (w.issues.map (·.id)) (List.mem_map.2 ⟨i, known, ?_⟩)
  rw [same]
  exact (of_decide_eq_true own).1

/-- **An edit keeps the changes of a status together.** -/
theorem Traced.edit (keyed : w.Keyed) (coherent : w.Coherent) (h : w.Traced)
    (edit : w.Edit w') : w'.Traced := by
  cases edit with
  -- only three edits touch issues or changes; the status edit touches both
  | issue tracker issue submittedBy submittedOn =>
    refine ⟨h.ascending, h.others, fun i hi => ?_⟩
    rcases List.mem_append.1 hi with old | new
    · exact h.statuses i old
    · rw [List.mem_singleton.1 new]
      show Follows none (statusChanges w.changes _)
      rw [statusChanges_new coherent]
      exact .nil
  | change issue field newValue changedBy changedOn other =>
    refine ⟨ascending_append h.ascending rfl, fun x hx named => ?_, fun i hi => ?_⟩
    · rcases List.mem_append.1 hx with old | new
      · exact h.others x old named
      · rw [List.mem_singleton.1 new]
    · show Follows i.status (statusChanges (w.changes ++ _) i.id)
      rw [statusChanges_append_of_other fun own => other own.2]
      exact h.statuses i hi
  | status issue newValue changedBy changedOn =>
    refine ⟨ascending_append h.ascending rfl, fun x hx named => ?_, fun i hi => ?_⟩
    · rcases List.mem_append.1 hx with old | new
      · exact h.others x old named
      · rw [List.mem_singleton.1 new] at named
        exact absurd rfl named
    · obtain ⟨j, hj, rfl⟩ := List.mem_map.1 hi
      have before := h.statuses j hj
      split
      · rename_i own
        subst own
        show Follows (some newValue) (statusChanges (w.changes ++ _) j.id)
        rw [statusChanges_append_self rfl]
        exact before.append (x := ⟨_, j.id, statusField, _, newValue, _, _⟩) (statusOf_eq keyed hj)
      · rename_i own
        show Follows j.status (statusChanges (w.changes ++ _) j.id)
        rw [statusChanges_append_of_other fun same => own same.1.symm]
        exact before
  | group kind => cases kind <;> exact ⟨h.ascending, h.others, h.statuses⟩
  | person | bot | link | enrollment | project | part | attachment | repository | commit | tracker
  | setting => exact ⟨h.ascending, h.others, h.statuses⟩

/-- **In a reachable warehouse the changes of a status hang together.** -/
theorem Reachable.traced (h : w.Reachable) : w.Traced := by
  refine (h.of_edit (P := fun w => w.Keyed ∧ w.Coherent ∧ w.Traced)
    ⟨keyed_empty, coherent_empty, traced_empty⟩ fun ⟨keyed, coherent, traced⟩ edit => ?_).2.2
  exact ⟨keyed.edit edit, coherent.edit edit, traced.edit keyed coherent edit⟩

/-- The order in which changes were added is that of their numbers. -/
theorem Traced.statusHistory_eq (h : w.Traced) (issue : Int) :
    w.statusHistory issue = statusChanges w.changes issue := by
  refine List.mergeSort_of_pairwise ((h.ascending.filter _).imp fun less => ?_)
  exact decide_eq_true (Int.le_of_lt less)

/-! ## The theorem

Histories are now read by number, as the records are. -/

/-- **The status of an issue follows its changes.** By number, its changes of the status hang
together and lead to the status that it has, and other changes remember nothing. A change of another
field leaves every issue as it was, and a change that fails leaves the issues and the changes as
they were.

The warehouse is any that operations lead to, with changes of other issues and other fields in
between and with operations that failed. That a change was made later by its own date is of no
concern: the status is what was set last, and a date may be any text. -/
theorem status_follows_changes (reachable : w.Reachable) :
    (∀ i ∈ w.issues, Follows i.status (w.statusHistory i.id)) ∧
    (∀ x ∈ w.changes, x.field ≠ statusField → x.oldValue = none) ∧
    ∀ (issue : Int) (field newValue : String) (changedBy : Option Int) (changedOn : String),
      (field ≠ statusField →
        (w.insertChange issue field newValue changedBy changedOn).2.issues = w.issues) ∧
      ∀ fault, (w.insertChange issue field newValue changedBy changedOn).1 = .error fault →
        (w.insertChange issue field newValue changedBy changedOn).2 = w := by
  have traced := reachable.traced
  refine ⟨fun i hi => ?_, traced.others, fun issue field newValue changedBy changedOn => ?_⟩
  · rw [traced.statusHistory_eq]
    exact traced.statuses i hi
  · unfold insertChange
    split
    · exact ⟨fun other => if_neg other, fun fault failed => by cases failed⟩
    · exact ⟨fun _ => rfl, fun _ _ => rfl⟩

/-! ## Changes between changes

What may come between two changes of a status is another issue, another field, and a failure. -/

/-- Two issues whose changes take turns. Two changes fail, since an issue or an actor is unknown. -/
def takingTurns : Warehouse :=
  .load .empty
    [.nameTracker "t", .insertIssue 1 "1" none "2025-01-01", .insertIssue 1 "2" none "2025-01-01",
      .insertChange 1 statusField "open" none "2025-01-02",
      .insertChange 2 statusField "new" none "2025-01-03",
      .insertChange 1 "owner" "ada" none "2025-01-04",
      .insertChange 9 statusField "lost" none "2025-01-05",
      .insertChange 1 statusField "lost" (some 7) "2025-01-06",
      .insertChange 1 statusField "closed" none "2025-01-07"]

/-- Of the first issue, two changes of the status are kept, and the one of the owner between them
remembers nothing. One more change of the owner leaves the issues alone, and one by an unknown actor
leaves everything. -/
theorem status_follows_changes_takingTurns :
    takingTurns.Reachable ∧
    (∃ i ∈ takingTurns.issues, i.id = 1 ∧ i.status = some "closed" ∧
      Follows i.status (takingTurns.statusHistory i.id) ∧
      (takingTurns.statusHistory i.id).map (·.oldValue) = [none, some "open"]) ∧
    (∃ x ∈ takingTurns.changes, x.field = "owner" ∧ x.field ≠ statusField ∧ x.oldValue = none) ∧
    (takingTurns.insertChange 1 "owner" "bo" none "2025-01-08").2.issues = takingTurns.issues ∧
    (takingTurns.insertChange 1 statusField "lost" (some 7) "2025-01-08").2 = takingTurns := by
  have reachable : takingTurns.Reachable := ⟨_, rfl⟩
  obtain ⟨follows, others, alone⟩ := status_follows_changes reachable
  let issue : Issue := ⟨1, 1, "1", some "closed", none, "2025-01-01"⟩
  let change : Change := ⟨3, 1, "owner", none, "ada", none, "2025-01-04"⟩
  have known : issue ∈ takingTurns.issues := by decide
  have added : change ∈ takingTurns.changes := by decide
  have history : (takingTurns.statusHistory 1).map (·.oldValue) = [none, some "open"] := by
    rw [reachable.traced.statusHistory_eq]
    decide
  refine ⟨reachable, ⟨issue, known, rfl, rfl, follows issue known, history⟩,
    ⟨change, added, rfl, by decide, others change added (by decide)⟩, ?_, ?_⟩
  · exact (alone 1 "owner" "bo" none "2025-01-08").1 (by decide)
  · exact (alone 1 statusField "lost" (some 7) "2025-01-08").2 (.database .danglingReference) rfl

end ActivityMetrics.Warehouse
