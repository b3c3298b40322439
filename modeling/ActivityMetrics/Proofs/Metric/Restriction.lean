import ActivityMetrics.Proofs.Metric.DrillDown
import ActivityMetrics.Proofs.Metric.Exclusion
import ActivityMetrics.Proofs.Metric.Narrowing

/-!
# Restricting a filter

A filter is restricted by one more pair that has to match, in the selection or globally, or by one
more person or organization that is left out (`Filter.Restricted`). A restricted filter narrows the
one it comes from, so no number of its answers is greater: not its total, not the entry of a bucket,
not the number of an item, and there is no new item (`Count.countsNoMore_of_restricted`).

It may seem that this needs no proof, as a condition more can only remove rows. But a pair that is
bound also joins tables, and a join may multiply rows. That no number grows although there may be
more rows rests on two facts: a metric counts different values, and what the join adds to a row
changes none of them (`Count.exists_wider`). For numbers by item there is the same question of the
item, and for series that of the bucket, which is the same as the event is.

The comparison is one of answers that there are. A restriction makes the statement larger, and the
database may refuse it (`Count.restriction_beyond_depth_refused`).
-/

namespace ActivityMetrics

open Calendar

/-! ## Restricted filters

A restriction is described by how it is made, and only then by what it does. -/

namespace Filter

variable {f g h : Filter}

/-- A filter is restricted to another one, once or several times. A new pair may stand anywhere
among the old ones, and so may a person or an organization. -/
inductive Restricted : Filter → Filter → Prop
  /-- One more pair is bound by the selection, wherever it stands. -/
  | bound (f : Filter) (ps qs : List (Dimension × String)) (b : Dimension × String) :
      Restricted { f with selection := .bound (ps ++ qs) }
        { f with selection := .bound (ps ++ b :: qs) }
  /-- A pair is bound globally. -/
  | boundGlobally (f : Filter) (b : Dimension × String) :
      Restricted { f with global := none } { f with global := some b }
  /-- One more person is left out. -/
  | withoutActor (f : Filter) (us vs : List String) (u : String) :
      Restricted { f with excludedActors := us ++ vs } { f with excludedActors := us ++ u :: vs }
  /-- One more organization is left out. -/
  | withoutOrganization (f : Filter) (ns ks : List String) (n : String) :
      Restricted { f with excludedOrganizations := ns ++ ks }
        { f with excludedOrganizations := ns ++ n :: ks }
  /-- Restrictions follow each other. -/
  | trans {f g h : Filter} : Restricted f g → Restricted g h → Restricted f h

/-- A filter narrows another one and lays out its answers alike. Without the latter there would be
nothing to compare: entries of series are compared bucket by bucket. -/
structure Refines (g f : Filter) : Prop extends Narrows g f where
  /-- Series are cut alike. -/
  period : g.period = f.period
  /-- Rankings are cut alike. -/
  limit : g.limit = f.limit
  /-- The same dimension is broken down. -/
  group : g.group? = f.group?

/-- A restriction of a restriction is one. -/
theorem Refines.trans (r : h.Refines g) (r' : g.Refines f) : h.Refines f :=
  ⟨r.toNarrows.trans r'.toNarrows, r.period.trans r'.period, r.limit.trans r'.limit,
    r.group.trans r'.group⟩

/-- Series of a filter that refines another one are over the same buckets. -/
theorem Refines.axis_eq (r : g.Refines f) {axis axis' : List Period.Bucket}
    (hf : f.period.buckets f.start f.stop = .ok axis)
    (hg : g.period.buckets g.start g.stop = .ok axis') : axis' = axis := by
  rw [r.period, r.start, r.stop, hf] at hg
  exact (Except.ok.inj hg).symm

/-- **A restricted filter refines the one it comes from.** -/
theorem Restricted.refines (r : f.Restricted g) : g.Refines f := by
  have inserted : ∀ {α : Type} (l l' : List α) (a : α), l ++ l' ⊆ l ++ a :: l' := fun l l' a =>
    List.append_subset.2 ⟨List.subset_append_left _ _,
      List.subset_append_of_subset_right _ (List.subset_cons_self _ _)⟩
  have all : ∀ {α : Type} (l : List α), l ⊆ l := fun l => List.Subset.refl l
  induction r with
  | bound f ps qs b =>
    have bindings : ps ++ qs ++ f.global.toList ⊆ ps ++ b :: qs ++ f.global.toList := by
      simpa only [List.append_assoc, List.cons_append] using inserted ps (qs ++ f.global.toList) b
    exact ⟨⟨rfl, rfl, rfl, bindings, all _, all _⟩, rfl, rfl, rfl⟩
  | boundGlobally f b =>
    have bindings : f.selection.pairs ++ [] ⊆ f.selection.pairs ++ [b] := inserted _ [] b
    exact ⟨⟨rfl, rfl, rfl, bindings, all _, all _⟩, rfl, rfl, rfl⟩
  | withoutActor f us vs u =>
    exact ⟨⟨rfl, rfl, rfl, all _, inserted us vs u, all _⟩, rfl, rfl, rfl⟩
  | withoutOrganization f ns ks n =>
    exact ⟨⟨rfl, rfl, rfl, all _, all _, inserted ns ks n⟩, rfl, rfl, rfl⟩
  | trans _ _ ih ih' => exact ih'.trans ih

end Filter

/-! ## Numbers

All four kinds of numbers are counts over parts of the matches, and one lemma compares them. -/

namespace Count

variable {c : Count} {w : Warehouse} {f g : Filter} {group : Option Dimension} {d : Dimension}
variable {key : GroupKey} {a : Answer}

/-- Fewer values are counted among matches of a narrower filter than among those of the wider one
that are about the same events, in the same items. What the parts are is left open: everything, a
bucket, an item, or both. -/
theorem count_le_of_narrows (n : g.Narrows f) {ms ms' : List Match}
    (inside : ∀ m ∈ ms, m ∈ (c.query w g group).matchesIn w)
    (wider : ∀ m ∈ ms, ∀ m' ∈ (c.query w f group).matchesIn w, m'.record = m.record →
      (∀ d ∈ group, ∀ key, d.key? c.source = some key → key.valueOf m' = key.valueOf m) →
      m' ∈ ms') :
    (c.query w g group).counted.count ms ≤ (c.query w f group).counted.count ms' := by
  have counted : (c.query w g group).counted = (c.query w f group).counted :=
    congrArg (·.counted) (definition_congr n.closing c)
  rw [counted]
  refine Counted.count_le fun m hm => ?_
  obtain ⟨m', hm', record, value, items⟩ := exists_wider n (fun _ h => h) (inside m hm)
  exact ⟨m', wider m hm m' hm' record items, by rw [value, counted]⟩

/-- The total of a narrower filter is not greater. -/
theorem total_le (n : g.Narrows f) : c.total w g ≤ c.total w f :=
  count_le_of_narrows n (fun _ h => h) fun _ _ _ h _ _ => h

/-- The number of a bucket is not greater. -/
theorem bucketTotal_le (r : g.Refines f) (id : Int) :
    c.bucketTotal w g id ≤ c.bucketTotal w f id := by
  refine count_le_of_narrows r.toNarrows (fun m hm => (Query.mem_inBucket_iff.1 hm).1) ?_
  intro m hm m' hm' record _
  refine Query.mem_inBucket_iff.2 ⟨hm', ?_⟩
  rw [← (Query.mem_inBucket_iff.1 hm).2]
  exact congrArg₂ Period.bucketOfText r.period.symm (congrArg EventRecord.date record)

/-- The number of an item is not greater. -/
theorem itemTotal_le (n : g.Narrows f) (hk : d.key? c.source = some key) (v : String) :
    c.itemTotal w g d key v ≤ c.itemTotal w f d key v := by
  refine count_le_of_narrows n (fun m hm => (List.mem_filter.1 hm).1) ?_
  intro m hm m' hm' _ items
  refine List.mem_filter.2 ⟨hm', ?_⟩
  rw [items d rfl key hk]
  exact (List.mem_filter.1 hm).2

/-- The number of an item in a bucket is not greater. -/
theorem itemBucketTotal_le (r : g.Refines f) (hk : d.key? c.source = some key) (id : Int)
    (v : String) : c.itemBucketTotal w g d key id v ≤ c.itemBucketTotal w f d key id v := by
  have there : ∀ m ∈ ((c.query w g (some d)).inBucket ((c.query w g (some d)).matchesIn w)
      id).filter (fun m => key.valueOf m == some v),
        (m ∈ (c.query w g (some d)).matchesIn w ∧
          (c.query w g (some d)).bucketOf m = some id) ∧ key.valueOf m == some v := by
    intro m hm
    rw [List.mem_filter, Query.mem_inBucket_iff] at hm
    exact hm
  refine count_le_of_narrows r.toNarrows (fun m hm => (there m hm).1.1) ?_
  intro m hm m' hm' record items
  refine List.mem_filter.2 ⟨Query.mem_inBucket_iff.2 ⟨hm', ?_⟩, ?_⟩
  · rw [← (there m hm).1.2]
    exact congrArg₂ Period.bucketOfText r.period.symm (congrArg EventRecord.date record)
  · rw [items d rfl key hk]
    exact (there m hm).2

/-- An item of a narrower filter is one of the wider one. -/
theorem exists_match_of_narrows (n : g.Narrows f) (hk : d.key? c.source = some key) {v : String}
    (h : ∃ m ∈ (c.query w g (some d)).matchesIn w, key.valueOf m = some v) :
    ∃ m ∈ (c.query w f (some d)).matchesIn w, key.valueOf m = some v := by
  obtain ⟨m, hm, item⟩ := h
  obtain ⟨m', hm', _, _, items⟩ := exists_wider n (fun _ h => h) hm
  exact ⟨m', hm', (items d rfl key hk).trans item⟩

/-! ## Answers

What an answer shows is written down for each of its four forms, so that the comparison of answers
is one of numbers. -/

/-- The answer to a filter lists items with their numbers, each item once. As the numbers are a
function on all items, one that is not listed has a number, too; it is left to the theorem to say
that this is zero. -/
structure Lists (c : Count) (w : Warehouse) (f : Filter) (d : Dimension) (items : List String)
    (value : String → Nat) : Prop where
  /-- No item is repeated. -/
  nodup : items.Nodup
  /-- The items and their numbers are listed. -/
  listed : ∃ a, c.aggregate w f = .ok a ∧ a.list? d.name = some (items.map .text) ∧
    a.list? c.id = some (items.map fun k => .int (value k))

/-- An answer is a series over the buckets of a filter. The buckets are described by three fields
beside the values, and these are those of the window. -/
structure Charts (c : Count) (f : Filter) (axis : List Period.Bucket) (value : Int → Nat)
    (a : Answer) : Prop where
  /-- The buckets are those of the window. -/
  buckets : f.period.buckets f.start f.stop = .ok axis
  /-- They are described. -/
  described : ∀ name ∈ RowSet.axisFields,
    a.get? name = (RowSet.insertAxis f.period axis .empty).get? name
  /-- Every bucket has a number. -/
  values : a.list? c.id = some (axis.map fun b => .int (value b.id))

/-- An answer is a series for every item over the buckets of a filter. The numbers are a function of
the bucket and the item, and every item has a number for every bucket, zeros included. -/
structure ChartsItems (c : Count) (f : Filter) (d : Dimension) (axis : List Period.Bucket)
    (items : List String) (value : Int → String → Nat) (a : Answer) : Prop where
  /-- The buckets are those of the window. -/
  buckets : f.period.buckets f.start f.stop = .ok axis
  /-- They are described. -/
  described : ∀ name ∈ RowSet.axisFields,
    a.get? name = (RowSet.insertAxis f.period axis .empty).get? name
  /-- No item is repeated. -/
  nodup : items.Nodup
  /-- The items are listed. -/
  keys : a.list? d.name = some (items.map .text)
  /-- Every item has a number for every bucket. -/
  values : a.grouped? c.id = some (items.map fun k => axis.map fun b => .int (value b.id k))

/-- A breakdown that is accepted lists its items with their numbers. -/
theorem lists_of_admitted (hk : d.key? c.source = some key) (hg : f.group? = some d)
    (h : (c.query w f (some d)).Admitted .aggregate) :
    c.Lists w f d (c.listed w f d key) (c.itemTotal w f d key) :=
  ⟨Query.nodup_rankedItems _ key _, exists_breakdown hk (Filter.group?_eq_some_iff.1 hg) h⟩

/-- **What a series is, if it succeeds.** -/
theorem exists_charts (hg : f.group? = none) (h : c.series w f = .ok a) :
    ∃ axis, c.Charts f axis (c.bucketTotal w f) a := by
  obtain ⟨accepted, axis, buckets, placed⟩ := placed_of_series hg h
  rw [series_eq rfl hg accepted buckets placed] at h
  obtain rfl := Except.ok.inj h
  refine ⟨axis, buckets, fun name hn => Answer.get?_insert_of_ne (c.ne_id_of_mem hn) _ _, ?_⟩
  exact Answer.list?_of_get? (Answer.get?_insert_self _ _ _)

/-- **And what a series of every item is.** -/
theorem exists_chartsItems (hk : d.key? c.source = some key) (hg : f.group? = some d)
    (h : c.series w f = .ok a) :
    ∃ axis items, c.ChartsItems f d axis items (c.itemBucketTotal w f d key) a ∧
      ∀ v, v ∈ items ↔ ∃ m ∈ (c.query w f (some d)).matchesIn w, key.valueOf m = some v := by
  obtain ⟨accepted, axis, buckets, placed⟩ := placed_of_series hg h
  obtain ⟨items, nodup, mem, answered⟩ := series_every_eq rfl hg hk accepted buckets placed
  rw [answered] at h
  obtain rfl := Except.ok.inj h
  refine ⟨axis, items, ⟨buckets, fun name hn => ?_, nodup, ?_, ?_⟩, mem⟩
  · rw [Answer.get?_insert_of_ne (d.ne_name_of_mem hn),
      Answer.get?_insert_of_ne (c.ne_id_of_mem hn)]
  · exact Answer.list?_of_get? (Answer.get?_insert_self _ _ _)
  · apply Answer.grouped?_of_get?
    rw [Answer.get?_insert_of_ne (c.name_ne_id d).symm, Answer.get?_insert_self]
    rfl

/-! ## The theorem -/

/-- Nothing is counted more often under a filter than under another one. Totals and lists are
answered as far as the database accepts them. Series are assumed to be answered: they may fail for
other reasons, such as an event whose date is in no bucket, and a restriction may take the event
away. -/
structure CountsNoMore (c : Count) (w : Warehouse) (g f : Filter) : Prop where
  /-- The total is not greater. -/
  total : f.group? = none → (c.query w f none).Admitted .aggregate →
    (c.query w g none).Admitted .aggregate →
    ∃ n k, c.Answers w f n ∧ c.Answers w g k ∧ k ≤ n
  /-- Two series are over the same buckets, and no entry is greater. -/
  series : f.group? = none → ∀ a b, c.series w f = .ok a → c.series w g = .ok b →
    ∃ axis n k, c.Charts f axis n a ∧ c.Charts g axis k b ∧ ∀ i, k i ≤ n i
  /-- No item is new, and none has a greater number. -/
  items : ∀ d, f.group? = some d → d ≠ .project → f.limit = none →
    (c.query w f (some d)).Admitted .aggregate → (c.query w g (some d)).Admitted .aggregate →
    ∃ ns ks n k, c.Lists w f d ns n ∧ c.Lists w g d ks k ∧ ks ⊆ ns ∧ ∀ v, k v ≤ n v
  /-- Nor is there a new item or a greater entry in the series of items. -/
  itemSeries : ∀ d, f.group? = some d → d ≠ .project →
    ∀ a b, c.series w f = .ok a → c.series w g = .ok b →
    ∃ axis ns ks n k, c.ChartsItems f d axis ns n a ∧ c.ChartsItems g d axis ks k b ∧
      ks ⊆ ns ∧ ∀ i v, k i v ≤ n i v
  /-- A statement that is not accepted fails in the database. -/
  refused : ∀ h ∈ [f, g], h.group? ≠ some .project →
    ¬ (c.query w h h.group?).Admitted .aggregate →
    ∃ fault, c.aggregate w h = .error (.database fault)
  /-- Projects have no items. -/
  projects : f.group? = some .project → ∀ h ∈ [f, g],
    c.aggregate w h = .error (.unsupportedDimension "project" c.source.name) ∧
      c.series w h = .error (.unsupportedDimension "project" c.source.name)

/-- A statement that is not accepted fails in the database, whether it is broken down or not. -/
theorem refused_of_group (hp : f.group? ≠ some .project)
    (h : ¬ (c.query w f f.group?).Admitted .aggregate) :
    ∃ fault, c.aggregate w f = .error (.database fault) := by
  cases hg : f.group? with
  | none =>
    rw [hg] at h
    exact aggregate_refused hg h
  | some d =>
    rw [hg] at h hp
    obtain ⟨key, hk⟩ := Dimension.exists_key? (fun same => hp (congrArg some same)) c.source
    exact aggregate_every_refused hk (Filter.group?_eq_some_iff.1 hg) h

/-- **Restricting a filter never makes a number greater.** The answers to the restricted filter have
no greater total, no greater entry in any bucket, and no item that is new or has a greater number.
Statements that are not accepted fail in the database.

Each part gives the numbers of both answers as functions of the item or of the bucket, and compares
the functions. An item that is not listed has the number zero in them, so that an item which the
restriction removes is compared as well. Lists with a limit are not compared: where the first items
lose their numbers, others take their place. -/
theorem countsNoMore_of_restricted (c : Count) (w : Warehouse) (r : f.Restricted g) :
    c.CountsNoMore w g f := by
  have refines := r.refines
  have narrows := refines.toNarrows
  refine ⟨fun hg hf hg' => ?_, fun hg a b ha hb => ?_, fun d hg hd unlimited hf hg' => ?_,
    fun d hg hd a b ha hb => ?_, fun h _ => refused_of_group, fun hg h hh => ?_⟩
  · exact ⟨_, _, answers_total hg hf, answers_total (refines.group.trans hg) hg', total_le narrows⟩
  · obtain ⟨axis, charts⟩ := exists_charts hg ha
    obtain ⟨axis', charts'⟩ := exists_charts (refines.group.trans hg) hb
    obtain rfl := refines.axis_eq charts.buckets charts'.buckets
    exact ⟨axis', _, _, charts, charts', bucketTotal_le refines⟩
  · obtain ⟨key, hk⟩ := Dimension.exists_key? hd c.source
    refine ⟨_, _, _, _, lists_of_admitted hk hg hf,
      lists_of_admitted hk (refines.group.trans hg) hg', fun v hv => ?_, itemTotal_le narrows hk⟩
    have unlimited' : g.limit = none := refines.limit.trans unlimited
    have occurs := (Query.mem_rankedItems_iff unlimited').1 hv
    exact (Query.mem_rankedItems_iff unlimited).2 (exists_match_of_narrows narrows hk occurs)
  · obtain ⟨key, hk⟩ := Dimension.exists_key? hd c.source
    obtain ⟨axis, ns, charts, mem⟩ := exists_chartsItems hk hg ha
    obtain ⟨axis', ks, charts', mem'⟩ := exists_chartsItems hk (refines.group.trans hg) hb
    obtain rfl := refines.axis_eq charts.buckets charts'.buckets
    refine ⟨axis', ns, ks, _, _, charts, charts', fun v hv => ?_, itemBucketTotal_le refines hk⟩
    exact (mem v).2 (exists_match_of_narrows narrows hk ((mem' v).1 hv))
  · have every : h.group? = some .project := by
      rcases List.mem_pair.1 hh with rfl | rfl
      · exact hg
      · exact refines.group.trans hg
    constructor
    · rw [aggregate, every]
      rfl
    · rw [Count.series, every]
      rfl

/-- Without the members of the guild there are fewer commits, and no more of anybody. -/
theorem countsNoMore_of_restricted_joiner :
    (∃ n k, commits.Answers .joiner (.january (.bound [])) n ∧
      commits.Answers .joiner ((Filter.january (.bound [])).withoutOrganizations ["guild"]) k ∧
        k ≤ n) ∧
    commits.total .joiner (.january (.bound [])) = 3 ∧
    commits.total .joiner ((Filter.january (.bound [])).withoutOrganizations ["guild"]) = 2 ∧
    ∃ ns ks n k, commits.Lists .joiner (.january (.every .person)) .person ns n ∧
      commits.Lists .joiner ((Filter.january (.every .person)).withoutOrganizations ["guild"])
        .person ks k ∧ ks ⊆ ns ∧ ∀ v, k v ≤ n v := by
  have total := (commits.countsNoMore_of_restricted .joiner
    (.withoutOrganization (.january (.bound [])) [] [] "guild")).total
  have items := (commits.countsNoMore_of_restricted .joiner
    (.withoutOrganization (.january (.every .person)) [] [] "guild")).items
  exact ⟨total rfl (by decide) (by decide), by decide, by decide,
    items .person rfl (by decide) rfl (by decide) (by decide)⟩

/-! ## A restriction too deep

A restriction is refused where what it adds to the statement is one level too deep. -/

/-- **A restriction may be refused.** The total of nearly a thousand repositories is zero in an
empty warehouse, and without the members of an organization it is not answered at all. -/
theorem restriction_beyond_depth_refused :
    Warehouse.empty.Reachable ∧
    (Filter.inRepositories 992).Restricted
      ((Filter.inRepositories 992).withoutOrganizations ["guild"]) ∧
    commits.Answers .empty (.inRepositories 992) 0 ∧
    (∃ fault, commits.aggregate .empty
      ((Filter.inRepositories 992).withoutOrganizations ["guild"]) = .error (.database fault)) ∧
    ¬ ∃ n, commits.Answers .empty ((Filter.inRepositories 992).withoutOrganizations ["guild"]) n ∧
      n ≤ 0 := by
  have refused : ∃ fault, commits.aggregate .empty
      ((Filter.inRepositories 992).withoutOrganizations ["guild"]) = .error (.database fault) :=
    aggregate_refused rfl
      (not_admitted_inRepositories_withoutOrganizations .empty (by omega))
  refine ⟨⟨[], rfl⟩, .withoutOrganization (.inRepositories 992) [] [] "guild", ?_, refused, ?_⟩
  · have nothing : commits.total .empty (.inRepositories 992) = 0 := by
      rw [total_eq_countP Warehouse.keyed_empty (.inl rfl)]
      rfl
    exact nothing ▸ answers_total rfl (admitted_inRepositories .empty (by omega))
  · obtain ⟨fault, failed⟩ := refused
    exact fun ⟨_, answered, _⟩ => not_answers_of_error failed answered

end Count

end ActivityMetrics
