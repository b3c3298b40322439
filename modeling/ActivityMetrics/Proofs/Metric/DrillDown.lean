import ActivityMetrics.Proofs.Metric.Timely
import Mathlib

/-!
# Drilling down to an item

A breakdown and the answer for a single item are reached on different ways: the one groups the
matches by a key, the other binds the dimension to a value. They agree (`Count.drillDown`). The
items of a breakdown are those whose own answer is not zero, each once and with the value of this
answer, and a series broken down has the same items with the same series.

Behind this is one fact about matches, that those of the single item are those of the breakdown that
belong to the item (`Count.mem_matchesIn_only_iff`). What is added here is how the two answers are
laid out. A breakdown shows a row for each group of matches, and so an item without any is not
shown; the total of a single item is one number, which is zero where the item does not occur. The
two readings of an item that is not there, missing and zero, are brought together by saying of every
value whether it is listed.

For a series there is one more thing to see. The series of single items are over buckets that each
of them computes by itself, and they can be put beside each other only because the buckets come from
the window and not from the events.

The answer for a single item needs one mark more than the breakdown, for the value that is bound, so
the database may refuse it where the breakdown is accepted
(`Count.breakdown_accepted_item_refused`).
-/

namespace ActivityMetrics

open Calendar

namespace Count

variable {c : Count} {w : Warehouse} {f : Filter} {d : Dimension} {key : GroupKey}

/-- The number of an item in the breakdown of a dimension. It is defined for every value, listed or
not, and is zero for one that does not occur. -/
def itemTotal (c : Count) (w : Warehouse) (f : Filter) (d : Dimension) (key : GroupKey)
    (v : String) : Nat :=
  (c.query w f (some d)).itemCount key ((c.query w f (some d)).matchesIn w) v

/-- The items that the breakdown of a dimension lists, in the order of the list, as far as the
filter's limit allows. -/
def listed (c : Count) (w : Warehouse) (f : Filter) (d : Dimension) (key : GroupKey) :
    List String :=
  (c.query w f (some d)).rankedItems key ((c.query w f (some d)).matchesIn w)

/-- The number of an item in a bucket of a series. -/
def itemBucketTotal (c : Count) (w : Warehouse) (f : Filter) (d : Dimension) (key : GroupKey)
    (id : Int) (v : String) : Nat :=
  (c.query w f (some d)).itemCount key
    ((c.query w f (some d)).inBucket ((c.query w f (some d)).matchesIn w) id) v

/-- To bind an item does not change what is counted. -/
theorem counted_only (c : Count) (w : Warehouse) (f : Filter) (d : Dimension) (v : String) :
    (c.query w (f.only d v) none).counted = (c.query w f (some d)).counted := by
  cases c <;> rfl

/-- **The number of an item is the total of the item.** One is counted over the matches of the
breakdown that belong to the item, the other over the matches of the item, and these are the same
matches. They need not be listed alike, and counting does not depend on it. -/
theorem count_only (hk : d.key? c.source = some key) (every : f.selection = .every d)
    (v : String) :
    (c.query w (f.only d v) none).counted.count ((c.query w (f.only d v) none).matchesIn w)
      = c.itemTotal w f d key v := by
  rw [counted_only, itemTotal, Query.itemCount]
  refine Counted.count_congr fun m => ?_
  rw [mem_matchesIn_only_iff hk every, List.mem_filter, beq_iff_eq]

/-- The number of an item in a bucket is that of the item alone. A match is in the same bucket in
both queries. -/
theorem count_inBucket_only (hk : d.key? c.source = some key) (every : f.selection = .every d)
    (v : String) (id : Int) :
    (c.query w (f.only d v) none).counted.count ((c.query w (f.only d v) none).inBucket
      ((c.query w (f.only d v) none).matchesIn w) id) = c.itemBucketTotal w f d key id v := by
  have bucket : (c.query w (f.only d v) none).bucketOf = (c.query w f (some d)).bucketOf := rfl
  rw [counted_only, itemBucketTotal, Query.itemCount]
  refine Counted.count_congr fun m => ?_
  rw [Query.mem_inBucket_iff, mem_matchesIn_only_iff hk every, List.mem_filter, beq_iff_eq,
    Query.mem_inBucket_iff, bucket]
  exact and_right_comm

/-- **An item occurs exactly when its number is not zero.** Every match of a query has something
that is counted, so that no group of matches is counted as nothing. -/
theorem itemTotal_ne_zero_iff {v : String} :
    c.itemTotal w f d key v ≠ 0 ↔
      ∃ m ∈ (c.query w f (some d)).matchesIn w, key.valueOf m = some v := by
  rw [itemTotal, Query.itemCount, ne_eq,
    count_eq_zero_iff fun m hm => (List.mem_filter.1 hm).1, List.filter_eq_nil_iff]
  simp only [beq_iff_eq, not_forall, not_not, exists_prop]

/-! ## Agreement

What it is for a breakdown to agree with its items is stated on the answers, as what a client sees:
fields of the one answer beside fields of the others. -/

/-- The answer of a breakdown agrees with the totals of single items, as far as these are accepted.
Nothing is said of an item whose own statement is refused, except that it is listed with some
number: there is no total to compare it with. -/
structure TotalsAgree (c : Count) (w : Warehouse) (f : Filter) (d : Dimension)
    (items : List String) (a : Answer) : Prop where
  /-- No item is repeated. -/
  nodup : items.Nodup
  /-- The items are listed. -/
  keys : a.list? d.name = some (items.map .text)
  /-- The items are those whose total is not zero, and their totals are listed with them. -/
  totals : ∃ value : String → Nat, a.list? c.id = some (items.map fun v => .int (value v)) ∧
    ∀ v, (c.query w (f.only d v) none).Admitted .aggregate →
      (∃ b, c.aggregate w (f.only d v) = .ok b ∧ b.scalar? c.id = some (.int (value v))) ∧
        (v ∈ items ↔ value v ≠ 0)

/-- The answer of a series broken down agrees with the series of single items, as far as these are
accepted. The fields of the axis are the same in all answers, so that values in the same place
belong to the same bucket. -/
structure SeriesAgree (c : Count) (w : Warehouse) (f : Filter) (d : Dimension)
    (items : List String) (a : Answer) : Prop where
  /-- No item is repeated. -/
  nodup : items.Nodup
  /-- The items are listed. -/
  keys : a.list? d.name = some (items.map .text)
  /-- The series of the items are listed with them, over the same buckets. -/
  series : ∃ values : String → List Datum, a.grouped? c.id = some (items.map values) ∧
    ∀ v, (c.query w (f.only d v) none).Admitted .timeSeries →
      ∃ b, c.series w (f.only d v) = .ok b ∧ b.list? c.id = some (values v) ∧
        ∀ name ∈ RowSet.axisFields, b.list? name = a.list? name

/-- The answer of a breakdown: the ranked items with their totals. -/
theorem exists_breakdown (hk : d.key? c.source = some key) (every : f.selection = .every d)
    (h : (c.query w f (some d)).Admitted .aggregate) :
    ∃ a, c.aggregate w f = .ok a ∧
      a.list? d.name = some ((c.listed w f d key).map .text) ∧
      a.list? c.id = some ((c.listed w f d key).map fun v => .int (c.itemTotal w f d key v)) := by
  have grouped := Filter.group?_of_every every
  have answered := breakdown_eq (q := c.query w f (some d)) (w := w) (f := f) rfl hk h
  rw [aggregate, grouped]
  refine ⟨_, answered, ?_, ?_⟩
  · apply Answer.list?_of_get?
    rw [Answer.get?_insert_self]
    rfl
  · apply Answer.list?_of_get?
    rw [Answer.get?_insert_of_ne (c.name_ne_id d).symm,
      Answer.get?_insert_self]
    rfl

/-- A breakdown that is not accepted fails in the database. -/
theorem aggregate_every_refused (hk : d.key? c.source = some key) (every : f.selection = .every d)
    (h : ¬ (c.query w f (some d)).Admitted .aggregate) :
    ∃ fault, c.aggregate w f = .error (.database fault) := by
  rw [aggregate, Filter.group?_of_every every]
  exact breakdown_refused hk h

/-- The total of a single item is its number in the breakdown. -/
theorem exists_total_only (hk : d.key? c.source = some key) (every : f.selection = .every d)
    {v : String} (h : (c.query w (f.only d v) none).Admitted .aggregate) :
    ∃ b, c.aggregate w (f.only d v) = .ok b ∧
      b.scalar? c.id = some (.int (c.itemTotal w f d key v)) := by
  refine ⟨_, aggregate_eq rfl h, ?_⟩
  apply Answer.scalar?_of_get?
  rw [Answer.get?_insert_self, count_only hk every]

/-- The totals of a breakdown agree with those of its items. Without a limit the list is that of all
items that occur. -/
theorem totalsAgree (hk : d.key? c.source = some key) (every : f.selection = .every d)
    (unlimited : f.limit = none) (h : (c.query w f (some d)).Admitted .aggregate) :
    ∃ a items, c.aggregate w f = .ok a ∧ c.TotalsAgree w f d items a ∧
      ∀ v, v ∈ items ↔ ∃ m ∈ (c.query w f (some d)).matchesIn w, key.valueOf m = some v := by
  obtain ⟨a, answered, keys, values⟩ := exists_breakdown hk every h
  have mem : ∀ v, v ∈ c.listed w f d key ↔
      ∃ m ∈ (c.query w f (some d)).matchesIn w, key.valueOf m = some v :=
    fun v => Query.mem_rankedItems_iff unlimited
  refine ⟨a, c.listed w f d key, answered, ⟨Query.nodup_rankedItems _ key _, keys, ?_⟩, mem⟩
  refine ⟨c.itemTotal w f d key, values, fun v admitted => ?_⟩
  refine ⟨exists_total_only hk every admitted, ?_⟩
  rw [mem, itemTotal_ne_zero_iff]

/-- The series of a breakdown agree with those of its items. Events are dated by stamps and the
window has years of four digits, so that every event falls in a bucket that both answers have. -/
theorem seriesAgree (hk : d.key? c.source = some key) (every : f.selection = .every d)
    (h : (c.query w f (some d)).Admitted .timeSeries) (timely : w.Timely)
    (first : f.start.FourDigit) (last : f.stop.FourDigit) :
    ∃ a items, c.series w f = .ok a ∧ c.SeriesAgree w f d items a ∧
      ∀ v, v ∈ items ↔ ∃ m ∈ (c.query w f (some d)).matchesIn w, key.valueOf m = some v := by
  have grouped := Filter.group?_of_every every
  obtain ⟨axis, buckets, is_axis⟩ := f.period.exists_axis first last f.start_lt_stop
  obtain ⟨items, nodup, mem, answered⟩ :=
    series_every_eq rfl grouped hk h buckets (placed timely first last is_axis)
  refine ⟨_, items, answered, ⟨nodup, ?_, ?_⟩, mem⟩
  · apply Answer.list?_of_get?
    rw [Answer.get?_insert_self]
  · refine ⟨fun v => axis.map fun b => .int (c.itemBucketTotal w f d key b.id v), ?_, ?_⟩
    · apply Answer.grouped?_of_get?
      rw [Answer.get?_insert_of_ne (c.name_ne_id d).symm,
        Answer.get?_insert_self]
      rfl
    · -- the item alone has the same buckets, as its window is the same
      intro v admitted
      refine ⟨_, series_eq rfl rfl admitted buckets (placed timely first last is_axis), ?_, ?_⟩
      · apply Answer.list?_of_get?
        rw [Answer.get?_insert_self]
        simp only [count_inBucket_only hk every]
      · intro name hn
        rw [Answer.list?_insert_of_ne (c.ne_id_of_mem hn), Answer.list?_insert_of_ne
          (d.ne_name_of_mem hn), Answer.list?_insert_of_ne (c.ne_id_of_mem hn)]
        rfl

/-! ## The theorem

What the statements need of the database is kept apart for the breakdown and for the items, as the
one may be accepted without the other. -/

/-- **Drilling down to an item is consistent.** A breakdown without a limit lists the items whose
own totals are not zero, with these totals; a series broken down lists the same items with their own
series, where events are dated by stamps. All statements that the database does not accept fail in
it.

Projects are left out, as there is no breakdown by project. A limit is left out since an item that
is cut off is not listed although its total is not zero. Both directions of the listing are part of
the statement: a breakdown that dropped an item, or one that listed an item without events, would
not satisfy it.

The series has conditions that the total does not have. A date that is no stamp may be placed
outside of the buckets of its window, and then the series fails where the total is answered. -/
theorem drillDown (c : Count) (w : Warehouse) {f : Filter} {d : Dimension} (hd : d ≠ .project)
    (every : f.selection = .every d) (unlimited : f.limit = none) :
    ((c.query w f (some d)).Admitted .aggregate →
      ∃ a items, c.aggregate w f = .ok a ∧ c.TotalsAgree w f d items a ∧
        (w.Timely → f.start.FourDigit → f.stop.FourDigit →
          ∃ b items', c.series w f = .ok b ∧ c.SeriesAgree w f d items' b ∧
            ∀ v, v ∈ items' ↔ v ∈ items)) ∧
    (¬ (c.query w f (some d)).Admitted .aggregate →
      (∃ fault, c.aggregate w f = .error (.database fault)) ∧
        ∃ fault, c.series w f = .error (.database fault)) ∧
    ∀ v, ¬ (c.query w (f.only d v) none).Admitted .aggregate →
      (∃ fault, c.aggregate w (f.only d v) = .error (.database fault)) ∧
        ∃ fault, c.series w (f.only d v) = .error (.database fault) := by
  have grouped := Filter.group?_of_every every
  have keyed : ∃ key, d.key? c.source = some key := by
    cases d <;> first
      | exact ⟨_, rfl⟩
      | exact absurd rfl hd
  obtain ⟨key, hk⟩ := keyed
  -- without a limit a series has as many marks as a total
  have modes := Query.admitted_iff_of_unlimited (q := c.query w f (some d)) (.inr unlimited)
  refine ⟨fun h => ?_, fun h => ⟨?_, ?_⟩, fun v h => ⟨aggregate_refused rfl h, ?_⟩⟩
  · obtain ⟨a, items, answered, agree, mem⟩ := totalsAgree hk every unlimited h
    refine ⟨a, items, answered, agree, fun timely first last => ?_⟩
    obtain ⟨b, items', answered', agree', mem'⟩ :=
      seriesAgree hk every (modes.1 h) timely first last
    exact ⟨b, items', answered', agree', fun v => by rw [mem', mem]⟩
  · exact aggregate_every_refused hk every h
  · exact series_refused grouped (key?_breakdownQuery w f f.limit hk) fun accepted =>
      h (modes.2 accepted)
  · exact series_refused rfl rfl fun accepted =>
      h ((Query.admitted_iff_of_unlimited (.inl rfl)).2 accepted)

/-- In the days around a new year, the breakdown by company and its items agree. -/
theorem drillDown_newYear :
    ∃ a items, authors.aggregate .newYear (.newYear (.every .company)) = .ok a ∧
      authors.TotalsAgree .newYear (.newYear (.every .company)) .company items a ∧
      ∃ b items', authors.series .newYear (.newYear (.every .company)) = .ok b ∧
        authors.SeriesAgree .newYear (.newYear (.every .company)) .company items' b ∧
        ∀ v, v ∈ items' ↔ v ∈ items := by
  have every : (Filter.newYear (.every .company)).selection = .every .company := rfl
  have accepted : (authors.query .newYear (.newYear (.every .company)) (some .company)).Admitted
      .aggregate := by decide
  obtain ⟨a, items, answered, agree, series⟩ :=
    (authors.drillDown .newYear (by decide) every rfl).1 accepted
  exact ⟨a, items, answered, agree, series Warehouse.timely_newYear (by decide) (by decide)⟩

end Count

/-! ## One mark too many

A statement may have 32766 marks. The values that close an issue are marks, and a filter may name as
many of them as it likes. -/

/-- An issue that was closed in January 2025. -/
def Warehouse.closedIssue : Warehouse :=
  .load .empty
    [.nameTracker "t", .insertIssue 1 "1" none "2025-01-02",
      .insertChange 1 "f" "C" none "2025-01-03"]

/-- January 2025 by tracker, where one value or one of so many more closes an issue. -/
def Filter.closedBy (more : Nat) : Filter :=
  { january (.every .repository) with closing := some ⟨"f", "C" :: List.replicate more "C"⟩ }

namespace Count

variable (more : Nat)

/-- The breakdown has a mark for each value that closes an issue, one for the field, and those of
the window. -/
theorem marksOf_closedBy :
    Limits.marksOf .changes (closed.query .closedIssue (.closedBy more) (some .repository)).clauses
      false = more + 4 := by
  have predicates :
      (closed.query .closedIssue (.closedBy more) (some .repository)).clauses.predicates
        = [.closes ⟨"f", "C" :: List.replicate more "C"⟩] := rfl
  rw [Limits.marksOf, predicates, List.map_singleton, Condition.marks_closes, List.sum_singleton,
    List.length_cons, List.length_replicate, Bool.toNat_false]
  omega

/-- The single tracker has one mark more, for its name. -/
theorem marksOf_closedBy_only :
    Limits.marksOf .changes
      (closed.query .closedIssue ((Filter.closedBy more).only .repository "t") none).clauses false
      = more + 5 := by
  have predicates : (closed.query .closedIssue ((Filter.closedBy more).only .repository "t")
      none).clauses.predicates
        = [.closes ⟨"f", "C" :: List.replicate more "C"⟩, .repositoryIs .its "t"] := rfl
  have mark : (Condition.repositoryIs .its "t").marks .changes = 1 := rfl
  rw [Limits.marksOf, predicates, List.map_cons, List.map_singleton, Condition.marks_closes, mark,
    List.sum_cons, List.sum_singleton, List.length_cons, List.length_replicate, Bool.toNat_false]
  omega

/-- The tracker is listed however often a value is repeated. -/
theorem listed_closedBy :
    closed.listed .closedIssue (.closedBy more) .repository (.repository .its) = ["t"] := by
  cbv

/-- The tracker has its one closed issue. -/
theorem itemTotal_closedBy :
    closed.itemTotal .closedIssue (.closedBy more) .repository (.repository .its) "t" = 1 := by
  cbv

/-- **The answer for a listed item may be refused.** A breakdown that has as many marks as there may
be lists a tracker, and the database refuses the total of the tracker. -/
theorem breakdown_accepted_item_refused :
    Warehouse.closedIssue.Reachable ∧
    (∃ a, closed.aggregate .closedIssue (.closedBy 32762) = .ok a ∧
      a.list? "repository" = some [.text "t"] ∧ a.list? "closed" = some [.int 1]) ∧
    ∃ fault, closed.aggregate .closedIssue ((Filter.closedBy 32762).only .repository "t")
      = .error (.database fault) := by
  refine ⟨⟨_, rfl⟩, ?_, ?_⟩
  · have key : Dimension.repository.key? closed.source = some (.repository .its) := rfl
    have accepted : (closed.query .closedIssue (.closedBy 32762) (some .repository)).Admitted
        .aggregate :=
      ⟨Nat.le_of_eq (marksOf_closedBy 32762), by decide⟩
    obtain ⟨a, answered, keys, values⟩ := exists_breakdown key rfl accepted
    rw [listed_closedBy] at keys values
    rw [List.map_singleton, itemTotal_closedBy] at values
    exact ⟨a, answered, keys, values⟩
  · refine aggregate_refused rfl fun accepted => ?_
    have marks : 32762 + 5 ≤ Limits.marks := marksOf_closedBy_only 32762 ▸ accepted.1
    exact absurd marks (by decide)

end Count

end ActivityMetrics
