import ActivityMetrics.Metric.Answers
import ActivityMetrics.Proofs.Metric.Query
import ActivityMetrics.Proofs.Result.RowSet

/-!
# Answers in closed form

The answers of a counting metric to an accepted query, without rows: a total (`Count.aggregate_eq`),
the numbers of a ranking (`Count.breakdown_eq`), the numbers of all buckets (`Count.series_eq`), and
those of all buckets for every item (`Count.series_every_eq`). A query that is not accepted has a
fault of the database for an answer instead.

An answer is computed in stages: a statement is accepted, its matches become rows, the rows are read
as an answer, and a series is completed on its axis. Here the stages are put together, and a theorem
about answers is from here on one about numbers of matches. What is left of the rows is the order in
which items are listed. A breakdown lists them by rank, which the numbers determine. A series lists
them as they occur in its buckets, so nothing is said about this order but that no item is listed
twice and none is missing.

A series needs one thing more than a total, that every match lies in a bucket of the window. A match
that has none would be a row that fits nowhere, and the series would fail; it cannot be left out, as
the statement does not know the axis.
-/

namespace ActivityMetrics

open Calendar

namespace Query

variable {q : Query} {key : GroupKey} {ms : List Match} {axis : List Period.Bucket}

/-- The matches in a bucket. A match whose time is not read is in none. -/
def inBucket (q : Query) (ms : List Match) (id : Int) : List Match :=
  ms.filter fun m => q.bucketOf m == some id

/-- The matches of a bucket are those that have its number. -/
theorem mem_inBucket_iff {id : Int} {m : Match} :
    m ∈ q.inBucket ms id ↔ m ∈ ms ∧ q.bucketOf m = some id := by
  rw [inBucket, List.mem_filter, beq_iff_eq]

/-- Every match lies in a bucket of an axis. A match with a time that cannot be read lies in
none. -/
def Placed (q : Query) (ms : List Match) (axis : List Period.Bucket) : Prop :=
  ∀ m ∈ ms, ∃ b ∈ axis, q.bucketOf m = some b.id

/-- **The buckets of matches** are different buckets of the axis, and no match is elsewhere. The
rows come in the order of these buckets, which is not used: an answer places them by their
identifiers. -/
theorem Placed.exists_ids (h : q.Placed ms axis) :
    ∃ ids : List Int, ids.Nodup ∧ (∀ i ∈ ids, ∃ b ∈ axis, b.id = i) ∧
      (∀ i, i ∉ ids → q.inBucket ms i = []) ∧
        q.byBucket ms = ids.map fun i => (some i, q.inBucket ms i) := by
  have perm := List.mergeSort_perm (ms.map q.bucketOf).eraseDups bucketLe
  have mem : ∀ x, x ∈ (ms.map q.bucketOf).eraseDups.mergeSort bucketLe ↔
      ∃ m ∈ ms, q.bucketOf m = x := fun x => by
    rw [perm.mem_iff, List.mem_eraseDups, List.mem_map]
  -- no bucket is absent
  have present : (((ms.map q.bucketOf).eraseDups.mergeSort bucketLe).map (·.getD 0)).map some
      = (ms.map q.bucketOf).eraseDups.mergeSort bucketLe := by
    rw [List.map_map]
    refine (List.map_congr_left fun x hx => ?_).trans (List.map_id _)
    obtain ⟨m, hm, rfl⟩ := (mem x).1 hx
    obtain ⟨b, _, found⟩ := h m hm
    rw [Function.comp_apply, found]
    rfl
  have some_mem : ∀ i, i ∈ ((ms.map q.bucketOf).eraseDups.mergeSort bucketLe).map (·.getD 0) ↔
      ∃ m ∈ ms, q.bucketOf m = some i := fun i => by
    rw [← mem, ← present]
    simp
  refine ⟨((ms.map q.bucketOf).eraseDups.mergeSort bucketLe).map (·.getD 0), ?_, ?_, ?_, ?_⟩
  · have nodup := perm.nodup_iff.2 (nodup_eraseDups (ms.map q.bucketOf))
    rw [← present, List.Nodup, List.pairwise_map] at nodup
    exact nodup.imp fun different same => different (congrArg some same)
  · intro i hi
    obtain ⟨m, hm, found⟩ := (some_mem i).1 hi
    obtain ⟨b, hb, same⟩ := h m hm
    rw [same] at found
    exact ⟨b, hb, Option.some.inj found⟩
  · intro i hi
    refine List.eq_nil_iff_forall_not_mem.2 fun m hm => hi ?_
    exact (some_mem i).2 ⟨m, mem_inBucket_iff.1 hm⟩
  · rw [byBucket]
    conv => lhs; rw [← present]
    rw [List.map_map]
    rfl

theorem mem_byBucket {m : Match} (h : m ∈ ms) :
    (q.bucketOf m, ms.filter fun m' => q.bucketOf m' == q.bucketOf m) ∈ q.byBucket ms := by
  refine List.mem_map.2 ⟨q.bucketOf m, List.mem_mergeSort.2 (List.mem_eraseDups.2 ?_), rfl⟩
  exact List.mem_map.2 ⟨m, h, rfl⟩

/-- **The matches are placed when the rows are.** Every match has a row in its bucket, as long as it
belongs to an item where there are items. -/
theorem placed_of_rows {w : Warehouse} {key : Option (Dimension × GroupKey)}
    (items : ∀ k ∈ key, ∀ m ∈ q.matchesIn w, ∃ v, k.2.valueOf m = some v)
    (inside : ∀ row ∈ (q.rows w .timeSeries key).rows,
      ∃ b ∈ axis, RowSet.cell row 0 = .int b.id) :
    q.Placed (q.matchesIn w) axis := by
  intro m hm
  have row : ∃ row ∈ (q.rows w .timeSeries key).rows,
      RowSet.cell row 0 = bucketDatum (q.bucketOf m) := by
    cases key with
    | none => exact ⟨_, List.mem_map.2 ⟨_, mem_byBucket hm, rfl⟩, rfl⟩
    | some k =>
      obtain ⟨v, item⟩ := items k rfl m hm
      have here : m ∈ (q.matchesIn w).filter fun m' => q.bucketOf m' == q.bucketOf m :=
        List.mem_filter.2 ⟨hm, beq_self_eq_true _⟩
      have entry : (v, q.itemCount k.2 _ v) ∈ q.itemCounts k.2 _ :=
        List.mem_map.2 ⟨v, mem_itemsIn_iff.2 ⟨m, here, item⟩, rfl⟩
      exact ⟨_, List.mem_flatMap.2 ⟨_, mem_byBucket hm,
        List.mem_map.2 ⟨_, List.mem_mergeSort.2 entry, rfl⟩⟩, rfl⟩
  obtain ⟨row, there, first⟩ := row
  obtain ⟨b, hb, same⟩ := inside row there
  refine ⟨b, hb, ?_⟩
  rw [first] at same
  cases bucket : q.bucketOf m with
  | none =>
    rw [bucket] at same
    cases same
  | some i =>
    rw [bucket] at same
    rw [Datum.int.inj same]

end Query

/-! ## Names of fields

Fields of an answer are found by name, so that the names of buckets, of the dimension and of the
metric must be different. They are different for every dimension and every metric, which is checked
once for each of the lists. -/

/-- No dimension has the name of a field that describes buckets. -/
theorem Dimension.ne_name_of_mem (d : Dimension) {name : String} (h : name ∈ RowSet.axisFields) :
    name ≠ d.name := by
  simp only [RowSet.axisFields, List.mem_cons, List.not_mem_nil, or_false] at h
  rcases h with rfl | rfl | rfl <;> cases d <;> decide

/-- The items of all dimensions but projects can be told apart. -/
theorem Dimension.exists_key? {d : Dimension} (h : d ≠ .project) (source : Source) :
    ∃ key, d.key? source = some key := by
  cases d with
  | project => exact absurd rfl h
  | repository | company | country | domain | person => exact ⟨_, rfl⟩

/-- No metric has the name of a field that describes buckets. -/
theorem Count.ne_id_of_mem (c : Count) {name : String} (h : name ∈ RowSet.axisFields) :
    name ≠ c.id := by
  simp only [RowSet.axisFields, List.mem_cons, List.not_mem_nil, or_false] at h
  rcases h with rfl | rfl | rfl <;> cases c <;> decide

/-- No metric has the name of a dimension. -/
theorem Count.name_ne_id (c : Count) (d : Dimension) : d.name ≠ c.id := by
  cases c <;> cases d <;> decide

namespace Count

variable {c : Count} {w : Warehouse} {f : Filter} {d : Dimension} {key : GroupKey}

@[simp]
theorem name_query (c : Count) (w : Warehouse) (f : Filter) (group : Option Dimension) :
    (c.query w f group).name = c.id := by
  cases c <;> rfl

/-- The query of a breakdown with a limit of its own, which takes the place of that of the
filter. -/
def breakdownQuery (c : Count) (w : Warehouse) (f : Filter) (d : Dimension) (limit : Option Nat) :
    Query :=
  { c.query w f (some d) with limit }

theorem key?_breakdownQuery (w : Warehouse) (f : Filter) (limit : Option Nat)
    (hk : d.key? c.source = some key) :
    (c.breakdownQuery w f d limit).key? = .ok (some (d, key)) := by
  have own : d.key? (c.breakdownQuery w f d limit).source = some key := hk
  simp only [Query.key?, breakdownQuery, query] at own ⊢
  rw [own]

/-! ## Aggregates

A total is read from the single row, which is there even if nothing matches. A breakdown is read
from a row for each item, and these are there only for items that occur. -/

/-- **A total is the number of distinct values among all matches.** An event with several matches
has one value in all of them. -/
theorem aggregate_eq (hg : f.group? = none) (h : (c.query w f none).Admitted .aggregate) :
    c.aggregate w f = .ok (Answer.empty.insert c.id
      (.scalar (.int ((c.query w f none).counted.count ((c.query w f none).matchesIn w))))) := by
  have rows : (c.query w f none).rows w .aggregate none
      = ⟨[c.id], [[.int ((c.query w f none).counted.count ((c.query w f none).matchesIn w))]]⟩ := by
    rw [← name_query c w f none]
    rfl
  simp only [aggregate, hg, Query.run_of_admitted rfl h, rows, bind, Except.bind]
  exact RowSet.total_eq _ _

/-- There is no total where the statement is not accepted, and the fault is one of the database. -/
theorem aggregate_refused (hg : f.group? = none)
    (h : ¬ (c.query w f none).Admitted .aggregate) :
    ∃ fault, c.aggregate w f = .error (.database fault) := by
  obtain ⟨fault, failed⟩ := Query.run_of_not_admitted (w := w) rfl h
  refine ⟨fault, ?_⟩
  simp only [aggregate, hg, failed, bind, Except.bind]

/-- **A breakdown lists the numbers of the ranked items.** The items come first as a list and the
numbers as another, in the same order. -/
theorem breakdown_eq {limit : Option Nat} {q : Query} (hq : q = c.breakdownQuery w f d limit)
    (hk : d.key? c.source = some key) (h : q.Admitted .aggregate) :
    c.breakdown w f d limit
      = .ok ((Answer.empty.insert c.id (.list ((q.rankedItems key (q.matchesIn w)).map fun k =>
          .int (q.itemCount key (q.matchesIn w) k)))).insert d.name
        (.list ((q.rankedItems key (q.matchesIn w)).map .text))) := by
  have keyed : q.key? = .ok (some (d, key)) := hq ▸ key?_breakdownQuery w f limit hk
  have named : q.name = c.id := hq ▸ name_query c w f (some d)
  have columns : (q.rows w .aggregate (some (d, key))).columns = [d.name, c.id] := by
    rw [← named]
    rfl
  have rows : (q.rows w .aggregate (some (d, key))).rows
      = (q.rankedItems key (q.matchesIn w)).map fun k =>
        [.text k, .int (q.itemCount key (q.matchesIn w) k)] := by
    show (q.ranking key (q.matchesIn w)).map (fun x => [Datum.text x.1, .int x.2]) = _
    rw [q.ranking_eq, List.map_map]
    rfl
  rw [breakdown, show { c.query w f (some d) with limit } = q from hq.symm,
    Query.run_of_admitted keyed h]
  exact RowSet.pivoted_eq columns rows (q.nodup_rankedItems key (q.matchesIn w))

/-- There is no breakdown where the statement is not accepted, and the fault is one of the
database. -/
theorem breakdown_refused {limit : Option Nat} (hk : d.key? c.source = some key)
    (h : ¬ (c.breakdownQuery w f d limit).Admitted .aggregate) :
    ∃ fault, c.breakdown w f d limit = .error (.database fault) := by
  obtain ⟨fault, failed⟩ := Query.run_of_not_admitted (w := w) (key?_breakdownQuery w f limit hk) h
  refine ⟨fault, ?_⟩
  rw [breakdown, show { c.query w f (some d) with limit } = c.breakdownQuery w f d limit from rfl,
    failed]
  rfl

/-! ## Series

The rows of a series are those of the buckets that have a match. On the axis the others are between
them, and there the number is zero. -/

variable {axis : List Period.Bucket}

/-- **A series lists the numbers of all buckets**, and zero for a bucket without matches. -/
theorem series_eq {q : Query} (hq : q = c.query w f none) (hg : f.group? = none)
    (h : q.Admitted .timeSeries) (buckets : f.period.buckets f.start f.stop = .ok axis)
    (placed : q.Placed (q.matchesIn w) axis) :
    c.series w f = .ok ((RowSet.insertAxis f.period axis .empty).insert c.id
      (.list (axis.map fun b => .int (q.counted.count (q.inBucket (q.matchesIn w) b.id))))) := by
  obtain ⟨ids, nodup, inside, rest, grouped⟩ := placed.exists_ids
  have named : q.name = c.id := hq ▸ name_query c w f none
  have columns : (q.rows w .timeSeries none).columns = [bucketField, c.id] := by
    rw [← named]
    rfl
  have rows : (q.rows w .timeSeries none).rows
      = ids.map fun i => [.int i, .int (q.counted.count (q.inBucket (q.matchesIn w) i))] := by
    show (q.byBucket (q.matchesIn w)).map _ = _
    rw [grouped, List.map_map]
    rfl
  have zero : ∀ i, i ∉ ids → q.counted.count (q.inBucket (q.matchesIn w) i) = 0 := fun i hi => by
    rw [rest i hi]
    rfl
  have keyed : q.key? = .ok none := by
    rw [hq]
    rfl
  simp only [series, hg, ← hq, Query.run_of_admitted keyed h, bind, Except.bind]
  exact RowSet.completed_eq columns rows buckets nodup inside zero

/-- **A series of every item lists its numbers of all buckets.** The items are those of some match;
their order is that of the rows, so only which there are is said of them. -/
theorem series_every_eq {q : Query} (hq : q = c.query w f (some d)) (hg : f.group? = some d)
    (hk : d.key? c.source = some key) (h : q.Admitted .timeSeries)
    (buckets : f.period.buckets f.start f.stop = .ok axis)
    (placed : q.Placed (q.matchesIn w) axis) :
    ∃ items : List String, items.Nodup ∧
      (∀ k, k ∈ items ↔ ∃ m ∈ q.matchesIn w, key.valueOf m = some k) ∧
      c.series w f = .ok (((RowSet.insertAxis f.period axis .empty).insert c.id
        (.grouped (items.map fun k => axis.map fun b =>
          .int (q.itemCount key (q.inBucket (q.matchesIn w) b.id) k)))).insert d.name
        (.list (items.map .text))) := by
  obtain ⟨ids, nodup, inside, rest, grouped⟩ := placed.exists_ids
  have named : q.name = c.id := hq ▸ name_query c w f (some d)
  have other : d.name ≠ bucketField := (d.ne_name_of_mem List.mem_cons_self).symm
  have columns : (q.rows w .timeSeries (some (d, key))).columns = [bucketField, d.name, c.id] := by
    rw [← named]
    rfl
  have rows : (q.rows w .timeSeries (some (d, key))).rows
      = (RowSet.entries ids fun i => q.sortedItems key (q.inBucket (q.matchesIn w) i)).map
        (RowSet.entryRow fun i k => q.itemCount key (q.inBucket (q.matchesIn w) i) k) := by
    show (q.byBucket (q.matchesIn w)).flatMap _ = _
    rw [grouped, List.flatMap_map, RowSet.entries, List.map_flatMap]
    refine congrArg (ids.flatMap ·) (funext fun i => ?_)
    dsimp only
    rw [List.map_map, q.sorted_eq key, List.map_map]
    rfl
  -- an item has a row for the buckets in which it occurs, and zero in the others
  have zero : ∀ i k, ¬ (i ∈ ids ∧ k ∈ q.sortedItems key (q.inBucket (q.matchesIn w) i)) →
      q.itemCount key (q.inBucket (q.matchesIn w) i) k = 0 := by
    intro i k absent
    refine Query.itemCount_eq_zero fun there => absent ⟨?_, Query.mem_sortedItems_iff.2 there⟩
    obtain ⟨m, hm, _⟩ := there
    by_cases hi : i ∈ ids
    · exact hi
    · rw [rest i hi] at hm
      cases hm
  refine ⟨RowSet.allItems ids fun i => q.sortedItems key (q.inBucket (q.matchesIn w) i),
    nodup_eraseDups _, ?_, ?_⟩
  · intro k
    rw [RowSet.allItems, List.mem_eraseDups, List.mem_flatMap]
    constructor
    · rintro ⟨i, _, hk⟩
      obtain ⟨m, hm, found⟩ := Query.mem_sortedItems_iff.1 hk
      exact ⟨m, (Query.mem_inBucket_iff.1 hm).1, found⟩
    · rintro ⟨m, hm, found⟩
      obtain ⟨b, _, bucket⟩ := placed m hm
      have here := Query.mem_inBucket_iff.2 ⟨hm, bucket⟩
      refine ⟨b.id, ?_, Query.mem_sortedItems_iff.2 ⟨m, here, found⟩⟩
      by_cases hi : b.id ∈ ids
      · exact hi
      · rw [rest _ hi] at here
        cases here
  · have keyed : q.key? = .ok (some (d, key)) := by
      rw [hq]
      exact key?_breakdownQuery w f f.limit hk
    have pivoted := RowSet.pivotedSeries_eq columns rows other buckets nodup
      (fun i _ => q.nodup_sortedItems key _) inside zero
    simp only [series, hg, ← hq, Query.run_of_admitted keyed h, bind, Except.bind]
    exact pivoted

/-- There is no series where the statement is not accepted, and the fault is one of the database. -/
theorem series_refused {group : Option Dimension} {key : Option (Dimension × GroupKey)}
    (hg : f.group? = group) (hk : (c.query w f group).key? = .ok key)
    (h : ¬ (c.query w f group).Admitted .timeSeries) :
    ∃ fault, c.series w f = .error (.database fault) := by
  obtain ⟨fault, failed⟩ := Query.run_of_not_admitted (w := w) hk h
  refine ⟨fault, ?_⟩
  rw [series, hg, failed]
  rfl

/-! ## Series that succeed

Conversely, a series that is given says that its statement was accepted and that all its matches
were placed. This is what is known of a series without knowing where its filter comes from. -/

/-- A query by a dimension has the key of the dimension in its source. -/
theorem exists_key_of_query {key : Option (Dimension × GroupKey)}
    (h : (c.query w f (some d)).key? = .ok key) :
    ∃ k, d.key? c.source = some k ∧ key = some (d, k) := by
  cases hk : d.key? c.source with
  | none =>
    have own : d.key? (c.query w f (some d)).source = none := hk
    simp only [Query.key?, query] at own h
    rw [own] at h
    cases h
  | some k =>
    have named := key?_breakdownQuery w f f.limit hk
    exact ⟨k, rfl, Except.ok.inj (h.symm.trans named)⟩

/-- **A series succeeds only if every match lies in a bucket of the window.** So nothing is lost
between the rows and the answer. -/
theorem placed_of_series {group : Option Dimension} (hg : f.group? = group) {a : Answer}
    (h : c.series w f = .ok a) :
    (c.query w f group).Admitted .timeSeries ∧
      ∃ axis, f.period.buckets f.start f.stop = .ok axis ∧
        (c.query w f group).Placed ((c.query w f group).matchesIn w) axis := by
  cases hk : (c.query w f group).key? with
  | error e =>
    rw [series, hg, Query.run, hk] at h
    cases h
  | ok key =>
    by_cases accepted : (c.query w f group).Admitted .timeSeries
    · refine ⟨accepted, ?_⟩
      rw [series, hg, Query.run_of_admitted hk accepted] at h
      cases group with
      | none =>
        obtain rfl : none = key := Except.ok.inj hk
        obtain ⟨axis, buckets, inside⟩ := RowSet.exists_axis_of_completed rfl h
        refine ⟨axis, buckets, Query.placed_of_rows (fun _ there => ?_) inside⟩
        exact absurd there (Option.not_mem_none _)
      | some d =>
        obtain ⟨k, own, rfl⟩ := exists_key_of_query hk
        obtain ⟨axis, buckets, inside⟩ := RowSet.exists_axis_of_pivotedSeries rfl h
        refine ⟨axis, buckets, Query.placed_of_rows (fun _ same m hm => ?_) inside⟩
        cases same
        exact exists_item own hm
    · obtain ⟨fault, refused⟩ := series_refused (w := w) hg hk accepted
      rw [refused] at h
      cases h

end Count

end ActivityMetrics
