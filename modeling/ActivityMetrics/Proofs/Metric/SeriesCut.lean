import ActivityMetrics.Metric.Catalog
import ActivityMetrics.Proofs.Metric.Timely

/-!
# A series is a total cut into buckets

Where events are dated by stamps, the series of a metric has one entry for every bucket of the
window, and the entry of a bucket is the total over the part of the window that lies in it
(`Metric.series_cut`). The index of the backlog inherits this from the two counts that it is
composed of, since it is computed bucket by bucket.

The two answers are reached in different ways. A series asks one statement for all buckets and reads
the bucket of an event from what the database computes; a total asks a statement of its own, and the
window of this statement compares texts. Not every bucket has a row: what the statement does not
return is filled in with zero. So there are three things to see for each bucket, that its events are
those in a part of the window (`Count.mem_matchesIn_cut_iff`), that a bucket without a row has a
total of zero, and that the row of a bucket is put in its place.

An entry is a number of different values within its bucket. The entries of a series of people do not
add up to their total, and nothing like it is claimed.

The database has to accept the statements. It refuses one that has too many marks or too deep
conditions, and then the series fails.
-/

namespace ActivityMetrics

open Calendar

/-! ## Counting metrics

The entry of a bucket and the total over a part of the window are the same count over the same
matches. -/

namespace Count

variable {c : Count} {w : Warehouse} {f g : Filter} {axis : List Period.Bucket}

/-- The number of distinct values of a bucket. -/
def bucketTotal (c : Count) (w : Warehouse) (f : Filter) (id : Int) : Nat :=
  (c.query w f none).counted.count
    ((c.query w f none).inBucket ((c.query w f none).matchesIn w) id)

/-- The series lists the numbers of its buckets, in the order of the axis. -/
theorem series_eq_bucketTotal (timely : w.Timely) (hg : f.group? = none)
    (first : f.start.FourDigit) (last : f.stop.FourDigit)
    (h : (c.query w f none).Admitted .timeSeries)
    (buckets : f.period.buckets f.start f.stop = .ok axis)
    (is_axis : f.period.IsAxis f.start f.stop axis) :
    c.series w f = .ok ((RowSet.insertAxis f.period axis .empty).insert c.id
      (.list (axis.map fun b => .int (c.bucketTotal w f b.id)))) :=
  series_eq rfl hg h buckets (placed timely first last is_axis)

/-- **The total over the part of a window in a bucket** is the number of the bucket. -/
theorem aggregate_eq_bucketTotal (timely : w.Timely) (hg : f.group? = none)
    (first : f.start.FourDigit) (last : f.stop.FourDigit)
    (h : (c.query w f none).Admitted .timeSeries)
    (is_axis : f.period.IsAxis f.start f.stop axis) {b : Period.Bucket} (hb : b ∈ axis)
    {next : Date} (hn : next.day = f.period.slotStart (f.period.slotOf b.start.day + 1))
    (cut : f.withWindow (max f.start b.start) (min f.stop next) = .ok g) :
    c.aggregate w g
      = .ok (Answer.empty.insert c.id (.scalar (.int (c.bucketTotal w f b.id)))) := by
  have ungrouped : g.group? = none := (Filter.group?_withWindow cut).trans hg
  have counted : (c.query w g none).counted = (c.query w f none).counted := by
    rw [query_withWindow cut]
  have same : (c.query w g none).counted.count ((c.query w g none).matchesIn w)
      = c.bucketTotal w f b.id := by
    rw [counted]
    exact Counted.count_congr fun m =>
      mem_matchesIn_cut_iff timely first last is_axis hb hn cut
  have accepted : (c.query w g none).Admitted .aggregate :=
    (Query.admitted_iff_of_unlimited (.inl rfl)).2 ((admitted_withWindow_iff cut).2 h)
  rw [aggregate_eq ungrouped accepted, same]

end Count

/-! ## The cut

What it is to be cut into buckets is stated on answers, and for all metrics at once. -/

namespace Metric

/-- The fields of the values of a metric. The index shows the two counts that it comes from. -/
def fields : Metric → List String
  | .count c => [c.id]
  | .backlog => [Backlog.field, "closed", "opened"]

/-- The database accepts the statements of an ungrouped series. There is no limit in it, so that
this is also what a total takes. -/
def Admitted (m : Metric) (w : Warehouse) (f : Filter) : Prop :=
  match m with
  | .count c => (c.query w f none).Admitted .timeSeries
  | .backlog => (Count.closed.query w f none).Admitted .timeSeries ∧
      (Count.opened.query w f none).Admitted .timeSeries

/-- An answer lists one entry for every bucket, and the entry of a bucket is the total over the part
of the window that lies in it. The part goes from the beginning of the bucket to the beginning of
the next one, and is cut off at both ends of the window; in this form it is a window that a client
could ask for. -/
structure Cut (m : Metric) (w : Warehouse) (f : Filter) (axis : List Period.Bucket) (a : Answer) :
    Prop where
  /-- All fields have one entry for every bucket. -/
  lists : a.Lists axis.length
  /-- The buckets are those of the window. -/
  buckets : a.list? bucketField = some (axis.map fun b => .int b.id)
  /-- The entries of a bucket are those of a total. -/
  entries : ∀ (k : Nat) (b : Period.Bucket), axis[k]? = some b → ∃ next : Date,
    next.day = f.period.slotStart (f.period.slotOf b.start.day + 1) ∧
    ∃ g total, f.withWindow (max f.start b.start) (min f.stop next) = .ok g ∧
      m.aggregate w g = .ok total ∧
      ∀ field ∈ m.fields, ∃ (ds : List Datum) (d : Datum),
        a.list? field = some ds ∧ ds[k]? = some d ∧ total.scalar? field = some d

variable {m : Metric} {w : Warehouse} {f : Filter} {axis : List Period.Bucket} {a : Answer}

/-- An answer is a cut when every field is computed bucket by bucket, as in a total. That each part
of the window is a window, and not empty, is seen here once. -/
theorem Cut.of_entries (entry : String → Int → Datum) (last : f.stop.FourDigit)
    (is_axis : f.period.IsAxis f.start f.stop axis)
    (lists : a.Lists axis.length)
    (buckets : a.list? bucketField = some (axis.map fun b => .int b.id))
    (series : ∀ field ∈ m.fields, a.list? field = some (axis.map fun b => entry field b.id))
    (totals : ∀ b ∈ axis, ∀ next : Date,
      next.day = f.period.slotStart (f.period.slotOf b.start.day + 1) →
      ∀ g, f.withWindow (max f.start b.start) (min f.stop next) = .ok g →
      ∃ total, m.aggregate w g = .ok total ∧
        ∀ field ∈ m.fields, total.scalar? field = some (entry field b.id)) :
    m.Cut w f axis a := by
  refine ⟨lists, buckets, fun k b hk => ?_⟩
  have hb := List.mem_of_getElem? hk
  have lt : f.start.day < f.stop.day := f.start_lt_stop
  obtain ⟨next, hn⟩ := is_axis.exists_next lt last.inner hb
  have bounds := is_axis.bounds lt hb
  have begins := (Period.slotOf_eq_iff.1 (Eq.refl (f.period.slotOf b.start.day))).2
  have lowDay := Date.day_max f.start b.start
  have highDay := Date.day_min f.stop next
  obtain ⟨g, cut⟩ := f.exists_withWindow
    (show (max f.start b.start).day < (min f.stop next).day by omega)
  obtain ⟨total, answered, scalars⟩ := totals b hb next hn g cut
  refine ⟨next, hn, g, total, cut, answered, fun field hf => ?_⟩
  refine ⟨_, entry field b.id, series field hf, ?_, scalars field hf⟩
  rw [List.getElem?_map, hk]
  rfl

end Metric

namespace Count

variable {c : Count} {w : Warehouse} {f : Filter} {axis : List Period.Bucket}

/-- The series of a counting metric is its total cut into buckets. -/
theorem cut_series (timely : w.Timely) (hg : f.group? = none) (first : f.start.FourDigit)
    (last : f.stop.FourDigit) (h : (c.query w f none).Admitted .timeSeries)
    (is_axis : f.period.IsAxis f.start f.stop axis) :
    (Metric.count c).Cut w f axis ((RowSet.insertAxis f.period axis .empty).insert c.id
      (.list (axis.map fun b => .int (c.bucketTotal w f b.id)))) := by
  refine Metric.Cut.of_entries (fun _ i => .int (c.bucketTotal w f i)) last is_axis ?_ ?_
    ?_ ?_
  · exact (RowSet.lists_insertAxis _ _ (Answer.lists_empty _)).insert c.id (List.length_map _)
  · apply Answer.list?_of_get?
    rw [Answer.get?_insert_of_ne (c.ne_id_of_mem List.mem_cons_self)]
    exact RowSet.get?_insertAxis_bucketField _ _ _
  · intro field hf
    rw [List.mem_singleton.1 hf]
    apply Answer.list?_of_get?
    rw [Answer.get?_insert_self]
  · intro b hb next hn g cut
    refine ⟨_, aggregate_eq_bucketTotal timely hg first last h is_axis hb hn cut, ?_⟩
    intro field hf
    rw [List.mem_singleton.1 hf]
    apply Answer.scalar?_of_get?
    rw [Answer.get?_insert_self]

end Count

/-! ## The index of the backlog

The index is computed from the answers of two counts, by field and by bucket. If both are cuts, so
is the index. -/

namespace Backlog

variable {w : Warehouse} {f g : Filter} {axis : List Period.Bucket}

/-- The entry of a field of the index, from the two counts. As one function of the field it serves
totals and series alike. -/
def entry (closed opened : Datum) (name : String) : Datum :=
  if name = field then index closed opened else if name = "closed" then closed else opened

/-- The field of the index has the index of the two counts. -/
@[simp]
theorem entry_field (closed opened : Datum) : entry closed opened field = index closed opened :=
  rfl

/-- The field of what was closed has the first count itself. -/
@[simp]
theorem entry_closed (closed opened : Datum) : entry closed opened "closed" = closed :=
  rfl

/-- The field of what was opened has the second count itself. -/
@[simp]
theorem entry_opened (closed opened : Datum) : entry closed opened "opened" = opened :=
  rfl

/-- The fields of an answer of the index. -/
theorem get?_insert_fields (a : Answer) (value : String → FieldValue) {name : String}
    (h : name ∈ Metric.backlog.fields) :
    (((a.insert field (value field)).insert "closed" (value "closed")).insert "opened"
      (value "opened")).get? name = some (value name) := by
  simp only [Metric.fields, List.mem_cons, List.not_mem_nil, or_false] at h
  rcases h with rfl | rfl | rfl
  · rw [Answer.get?_insert_of_ne (by decide), Answer.get?_insert_of_ne (by decide),
      Answer.get?_insert_self]
  · rw [Answer.get?_insert_of_ne (by decide), Answer.get?_insert_self]
  · rw [Answer.get?_insert_self]

/-- The answer of the index over a window, from those of the two counts. -/
theorem aggregate_eq {a b : Answer} {closed opened : Datum} (hg : g.group? = none)
    (hc : Count.closed.aggregate w g = .ok a) (ho : Count.opened.aggregate w g = .ok b)
    (closedScalar : a.scalar? "closed" = some closed)
    (openedScalar : b.scalar? "opened" = some opened) :
    aggregate w g
      = .ok (((Answer.empty.insert field (.scalar (index closed opened))).insert "closed"
        (.scalar closed)).insert "opened" (.scalar opened)) := by
  simp only [aggregate, hg, hc, ho, closedScalar, openedScalar, need, bind, Except.bind, pure,
    Except.pure]

/-- The buckets of a series are copied from the series of a count. The fields that describe them are
those of the axis, whatever else the answer has. -/
theorem copyAxis_eq {p : Period} {a : Answer} (h : ∀ name ∈ RowSet.axisFields,
      a.get? name = (RowSet.insertAxis p axis .empty).get? name) :
    copyAxis a = .ok (RowSet.insertAxis p axis .empty) := by
  have ids := Answer.list?_of_get? ((h bucketField (by decide)).trans
    (RowSet.get?_insertAxis_bucketField _ _ _))
  have labels := Answer.list?_of_get? ((h labelField (by decide)).trans
    (RowSet.get?_insertAxis_labelField _ _ _))
  have seconds := Answer.list?_of_get? ((h secondsField (by decide)).trans
    (RowSet.get?_insertAxis_secondsField _ _ _))
  simp only [copyAxis, ids, labels, seconds, need, bind, Except.bind, pure, Except.pure]
  rfl

/-- The answer of the series of the index, from those of the two counts. -/
theorem series_eq (closed opened : Int → Datum) (hg : f.group? = none)
    (hc : Count.closed.series w f = .ok ((RowSet.insertAxis f.period axis .empty).insert "closed"
      (.list (axis.map fun b => closed b.id))))
    (ho : Count.opened.series w f = .ok ((RowSet.insertAxis f.period axis .empty).insert "opened"
      (.list (axis.map fun b => opened b.id)))) :
    series w f
      = .ok ((((RowSet.insertAxis f.period axis .empty).insert field
        (.list (axis.map fun b => index (closed b.id) (opened b.id)))).insert "closed"
        (.list (axis.map fun b => closed b.id))).insert "opened"
        (.list (axis.map fun b => opened b.id))) := by
  have copied : copyAxis ((RowSet.insertAxis f.period axis .empty).insert "opened"
      (.list (axis.map fun b => opened b.id))) = .ok (RowSet.insertAxis f.period axis .empty) :=
    copyAxis_eq fun name hn => Answer.get?_insert_of_ne (Count.ne_id_of_mem .opened hn) _ _
  have lists : ∀ name (ds : List Datum),
      ((RowSet.insertAxis f.period axis .empty).insert name (.list ds)).list? name = some ds :=
    fun _ _ => Answer.list?_of_get? (Answer.get?_insert_self _ _ _)
  have zipped : indexes (axis.map fun b => closed b.id) (axis.map fun b => opened b.id)
      = axis.map fun b => index (closed b.id) (opened b.id) := by
    rw [indexes, List.zipWith_map, List.zipWith_self]
  simp only [series, hc, ho, copied, hg, plainSeries, lists, need, List.length_map, ne_eq,
    not_true_eq_false, if_false, zipped, bind, Except.bind, pure, Except.pure]

/-- The series of the index is its total cut into buckets. Each of its three fields is computed from
the two counts of the bucket, in the series as in the total. -/
theorem cut_series (timely : w.Timely) (hg : f.group? = none) (first : f.start.FourDigit)
    (last : f.stop.FourDigit) (hc : (Count.closed.query w f none).Admitted .timeSeries)
    (ho : (Count.opened.query w f none).Admitted .timeSeries)
    (is_axis : f.period.IsAxis f.start f.stop axis) :
    Metric.backlog.Cut w f axis ((((RowSet.insertAxis f.period axis .empty).insert field
        (.list (axis.map fun b => index (.int (Count.closed.bucketTotal w f b.id))
          (.int (Count.opened.bucketTotal w f b.id))))).insert "closed"
        (.list (axis.map fun b => .int (Count.closed.bucketTotal w f b.id)))).insert "opened"
        (.list (axis.map fun b => .int (Count.opened.bucketTotal w f b.id)))) := by
  refine Metric.Cut.of_entries (fun name i => entry (.int (Count.closed.bucketTotal w f i))
    (.int (Count.opened.bucketTotal w f i)) name) last is_axis ?_ ?_ ?_ ?_
  · exact (((RowSet.lists_insertAxis _ _ (Answer.lists_empty _)).insert field
      (List.length_map _)).insert "closed" (List.length_map _)).insert "opened" (List.length_map _)
  · apply Answer.list?_of_get?
    rw [Answer.get?_insert_of_ne (by decide),
      Answer.get?_insert_of_ne (by decide), Answer.get?_insert_of_ne (by decide)]
    exact RowSet.get?_insertAxis_bucketField _ _ _
  · intro name hn
    apply Answer.list?_of_get?
    have found := get?_insert_fields (RowSet.insertAxis f.period axis .empty)
      (fun name => .list (axis.map fun b => entry (.int (Count.closed.bucketTotal w f b.id))
        (.int (Count.opened.bucketTotal w f b.id)) name)) hn
    simp only [entry_field, entry_closed, entry_opened] at found
    exact found
  · intro b hb next hn g cut
    have ungrouped : g.group? = none := (Filter.group?_withWindow cut).trans hg
    refine ⟨_, aggregate_eq ungrouped
      (Count.aggregate_eq_bucketTotal timely hg first last hc is_axis hb hn cut)
      (Count.aggregate_eq_bucketTotal timely hg first last ho is_axis hb hn cut)
      (Answer.scalar?_of_get? (Answer.get?_insert_self _ _ _))
      (Answer.scalar?_of_get? (Answer.get?_insert_self _ _ _)), ?_⟩
    intro name hname
    apply Answer.scalar?_of_get?
    have found := get?_insert_fields .empty
      (fun name => .scalar (entry (.int (Count.closed.bucketTotal w f b.id))
        (.int (Count.opened.bucketTotal w f b.id)) name)) hname
    simp only [entry_field, entry_closed, entry_opened] at found
    exact found

/-- The index has no series when the database refuses one of the two, whether it is asked for the
window or for each item. -/
theorem series_refused_of_key {group : Option Dimension} {key : Option (Dimension × GroupKey)}
    (hg : f.group? = group) (closedKey : (Count.closed.query w f group).key? = .ok key)
    (openedKey : (Count.opened.query w f group).key? = .ok key)
    (h : ¬ ((Count.closed.query w f group).Admitted .timeSeries ∧
      (Count.opened.query w f group).Admitted .timeSeries))
    (answered : (Count.closed.query w f group).Admitted .timeSeries →
      ∃ a, Count.closed.series w f = .ok a) :
    ∃ fault, series w f = .error (.database fault) := by
  by_cases hc : (Count.closed.query w f group).Admitted .timeSeries
  · obtain ⟨a, ha⟩ := answered hc
    obtain ⟨fault, failed⟩ := Count.series_refused (c := .opened) (w := w) hg openedKey
      fun ho => h ⟨hc, ho⟩
    exact ⟨fault, by simp only [series, ha, failed, bind, Except.bind]⟩
  · obtain ⟨fault, failed⟩ := Count.series_refused (c := .closed) (w := w) hg closedKey hc
    exact ⟨fault, by simp only [series, failed, bind, Except.bind]⟩

/-- For the window as a whole there is no key to be found. -/
theorem series_refused (hg : f.group? = none)
    (h : ¬ ((Count.closed.query w f none).Admitted .timeSeries ∧
      (Count.opened.query w f none).Admitted .timeSeries))
    (answered : (Count.closed.query w f none).Admitted .timeSeries →
      ∃ a, Count.closed.series w f = .ok a) :
    ∃ fault, series w f = .error (.database fault) :=
  series_refused_of_key hg rfl rfl h answered

end Backlog

/-! ## All metrics

Both kinds of metrics are brought under one statement. -/

/-- **A series is the total cut into buckets.** Where the database accepts the statements, there is
a series, and each of its entries is the total over the part of the window in a bucket. Where it
does not, the series fails in the database.

The filter may bind, exclude and limit what it likes, as long as it is not broken down. Its window
has years of four digits: a year beyond them is written with a sign, and would be compared by it.
And events are dated by stamps, since an event whose time the database cannot read is in the window
and in no bucket, and makes the series fail. -/
theorem Metric.series_cut (m : Metric) {w : Warehouse} {f : Filter} (timely : w.Timely)
    (hg : f.group? = none) (first : f.start.FourDigit) (last : f.stop.FourDigit) :
    (m.Admitted w f → ∃ axis a, f.period.buckets f.start f.stop = .ok axis ∧
      m.series w f = .ok a ∧ m.Cut w f axis a) ∧
    (¬ m.Admitted w f → ∃ fault, m.series w f = .error (.database fault)) := by
  obtain ⟨axis, buckets, is_axis⟩ := f.period.exists_axis first last f.start_lt_stop
  cases m with
  | count c =>
    constructor
    · intro h
      exact ⟨axis, _, buckets, c.series_eq_bucketTotal timely hg first last h buckets is_axis,
        c.cut_series timely hg first last h is_axis⟩
    · intro h
      exact Count.series_refused hg rfl h
  | backlog =>
    have closed := fun h =>
      Count.closed.series_eq_bucketTotal timely hg first last h buckets is_axis
    have opened := fun h =>
      Count.opened.series_eq_bucketTotal timely hg first last h buckets is_axis
    constructor
    · rintro ⟨hc, ho⟩
      exact ⟨axis, _, buckets,
        Backlog.series_eq (fun i => .int (Count.closed.bucketTotal w f i))
          (fun i => .int (Count.opened.bucketTotal w f i)) hg (closed hc) (opened ho),
        Backlog.cut_series timely hg first last hc ho is_axis⟩
    · intro h
      exact Backlog.series_refused hg h fun hc => ⟨_, closed hc⟩

/-- The days around a new year are cut at the Monday between them. -/
theorem Metric.series_cut_newYear :
    ∃ axis a, Period.week.buckets ⟨18627, by decide, by decide⟩ ⟨18632, by decide, by decide⟩
        = .ok axis ∧
      (count .authors).series .newYear (.newYear (.bound [])) = .ok a ∧
        (count .authors).Cut .newYear (.newYear (.bound [])) axis a := by
  have accepted : (Count.authors.query .newYear (.newYear (.bound [])) none).Admitted
      .timeSeries := by decide
  exact ((count .authors).series_cut Warehouse.timely_newYear rfl (by decide) (by decide)).1
    accepted

/-! ## Too deep conditions

Bound to many repositories, a filter has as many conditions, and each of them lifts the others by a
level. -/

/-- January 2025, bound to a number of repositories. -/
def Filter.inRepositories (n : Nat) : Filter :=
  january (.bound ((List.range n).map fun i => (.repository, Text.padded 4 i)))

namespace Count

/-- Each repository that is bound is one more condition. -/
theorem le_length_predicates_inRepositories (w : Warehouse) (n : Nat) :
    n ≤ (commits.query w (.inRepositories n) none).clauses.predicates.length := by
  have nodup :
      ((List.range n).map fun i => Condition.repositoryIs .scm (Text.padded 4 i)).Nodup := by
    refine List.pairwise_map.2 (List.nodup_range.imp fun different same => different ?_)
    exact Text.padded_injective 4 (Condition.repositoryIs.inj same).2
  have bound : (List.range n).map (fun i => Condition.repositoryIs .scm (Text.padded 4 i))
      ⊆ (commits.query w (.inRepositories n) none).clauses.predicates := by
    intro p hp
    obtain ⟨i, hi, rfl⟩ := List.mem_map.1 hp
    refine mem_predicates_query.2 (.inr (.inl ⟨(.repository, Text.padded 4 i), ?_, rfl⟩))
    exact List.mem_append_left _ (List.mem_map.2 ⟨i, hi, rfl⟩)
  have fewer := nodup.length_le_of_subset bound
  rwa [List.length_map, List.length_range] at fewer

/-- A thousand repositories are too many. -/
theorem not_admitted_inRepositories (w : Warehouse) {n : Nat} (many : 1000 ≤ n) {mode : Mode} :
    ¬ (commits.query w (.inRepositories n) none).Admitted mode := by
  intro accepted
  have bound := le_length_predicates_inRepositories w n
  have deep := (commits.query w (.inRepositories n) none).clauses.length_predicates_lt_reach
  have allowed : (commits.query w (.inRepositories n) none).clauses.reach ≤ 1000 := accepted.2
  omega

/-- **A series may be refused.** A thousand values that have to match are too many conditions, even
in an empty warehouse. -/
theorem series_of_thousand_repositories_refused :
    Warehouse.empty.Reachable ∧ Warehouse.empty.Timely ∧
    (Filter.inRepositories 1000).group? = none ∧
    (Filter.inRepositories 1000).start.FourDigit ∧ (Filter.inRepositories 1000).stop.FourDigit ∧
    ∃ fault, (Metric.count commits).series .empty (.inRepositories 1000)
      = .error (.database fault) := by
  have timely : Warehouse.empty.Timely := by
    intro e r known
    cases e <;> cases known
  have start : (⟨20089, by decide, by decide⟩ : Date).FourDigit := by decide
  have stop : (⟨20120, by decide, by decide⟩ : Date).FourDigit := by decide
  refine ⟨⟨[], rfl⟩, timely, rfl, start, stop, series_refused rfl rfl fun accepted => ?_⟩
  have many := le_length_predicates_inRepositories .empty 1000
  have deep := (commits.query .empty (.inRepositories 1000) none).clauses.length_predicates_lt_reach
  have allowed : (commits.query .empty (.inRepositories 1000) none).clauses.reach ≤ 1000 :=
    accepted.2
  omega

end Count

end ActivityMetrics
