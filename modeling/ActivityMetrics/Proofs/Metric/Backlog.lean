import ActivityMetrics.Proofs.Decimal.Whole
import ActivityMetrics.Proofs.Metric.Ranking
import ActivityMetrics.Proofs.Metric.SeriesCut
import ActivityMetrics.Proofs.Result.Items

/-!
# The index of the backlog, item by item

The breakdown of the index is composed from two breakdowns, of issues closed and of issues opened,
which list different items in different orders. It lists the items of either, each once, and for
every item the numbers and the index that the item has on its own
(`Backlog.exists_aggregate_composes`). The same holds of a series broken down, bucket by bucket. The
index is undefined exactly where nothing was opened. A limit takes items from the front of one
ranking (`Backlog.exists_breakdown_composes`).

The difficulty is in the items that only one of the breakdowns has. An item without opened issues is
not listed by the second breakdown, and is given zero of them; it has no index then, and keeps its
place in the lists. That this zero is right is not a matter of joining lists: a breakdown without a
limit lists every item that has anything, so what it does not list has nothing. With a limit on the
breakdowns it would be false, which is why the limit is applied after they are united.

As for a single count, the answer for an item needs one mark more than the breakdown, and the
database may refuse it (`Backlog.opened_itemTotal_closedBy` has such an item).
-/

namespace ActivityMetrics

open Calendar

namespace Backlog

variable {w : Warehouse} {f : Filter} {d : Dimension} {key : GroupKey}

/-- **The index is undefined exactly where nothing was opened.** -/
theorem index_eq_null_iff (closed opened : Nat) :
    index (.int closed) (.int opened) = .null ↔ opened = 0 := by
  rw [← Decimal.ofInt_beq_zero_iff]
  show Datum.ofNumber? ((ratio (Float.ofInt closed) (Float.ofInt opened)).map (· * 100)) = .null ↔ _
  unfold ratio
  split
  · rename_i zero
    exact iff_of_true rfl zero
  · rename_i nonzero
    exact iff_of_false nofun nonzero

/-! ## Entries of items

Two lists of items, with a list of numbers each, are to be looked up as one. A number that is not
listed is taken for the default, and so each list is treated as a function of the item that is the
default outside of it. -/

/-- An item has its own entry if it is listed, and the default if it is not. -/
theorem map_entryOf {α : Type} (default : α) {items : List String} {g : String → α}
    (rest : ∀ v, v ∉ items → g v = default) (all : List String) :
    (all.map Datum.text).map (entryOf (items.map .text) (items.map g) default) = all.map g := by
  rw [List.map_map]
  refine List.map_congr_left fun v _ => ?_
  rw [Function.comp_apply, entryOf, idxOf?_map_text, getElem?_idxOf?]
  split
  · rfl
  · rename_i absent
    exact (rest v absent).symm

/-- The numbers and the indexes of some items, as the two breakdowns are combined to. -/
def combined (items : List String) (c o : String → Nat) : Combined where
  items := items.map .text
  closed := items.map fun v => .int (c v)
  opened := items.map fun v => .int (o v)
  bmi := items.map fun v => index (.int (c v)) (.int (o v))

/-- **Two breakdowns are combined item by item.** The items of the second come first, and those that
only the first one has are added behind. -/
theorem combine_eq {name : String} {closed opened : Answer} {closedItems openedItems : List String}
    {c o : String → Nat} (closedKeys : closed.list? name = some (closedItems.map .text))
    (closedValues : closed.list? "closed" = some (closedItems.map fun v => .int (c v)))
    (closedRest : ∀ v, v ∉ closedItems → c v = 0)
    (openedKeys : opened.list? name = some (openedItems.map .text))
    (openedValues : opened.list? "opened" = some (openedItems.map fun v => .int (o v)))
    (openedRest : ∀ v, v ∉ openedItems → o v = 0) :
    combine name closed opened = .ok (combined (keepFirsts openedItems closedItems) c o) := by
  have closedEntries := map_entryOf (g := fun v => Datum.int (c v)) (.int 0)
    (fun v absent => by rw [closedRest v absent]; rfl) (keepFirsts openedItems closedItems)
  have openedEntries := map_entryOf (g := fun v => Datum.int (o v)) (.int 0)
    (fun v absent => by rw [openedRest v absent]; rfl) (keepFirsts openedItems closedItems)
  simp only [combine, closedKeys, closedValues, openedKeys, openedValues, need, unionItems,
    keepFirsts_map_text, closedEntries, openedEntries, List.zipWith_map, List.zipWith_self, bind,
    Except.bind, pure, Except.pure, combined]

/-- The lists of a breakdown with items, and the fields of every item. All lists have the same
length and the same order, or they would not belong to each other. -/
structure Composes (items : List String) (entries : String → String → Datum) (name : String)
    (a : Answer) : Prop where
  /-- The items are listed. -/
  keys : a.list? name = some (items.map .text)
  /-- The entries of the items are listed. -/
  fields : ∀ field ∈ Metric.backlog.fields, a.list? field = some (items.map (entries field))

/-- The fields of the index are not those of items. -/
theorem ne_name_of_mem_fields {field : String} (h : field ∈ Metric.backlog.fields)
    (d : Dimension) : d.name ≠ field := by
  simp only [Metric.fields, List.mem_cons, List.not_mem_nil, or_false] at h
  rcases h with rfl | rfl | rfl <;> cases d <;> decide

/-- The fields of the index are not those of buckets. -/
theorem ne_fields_of_mem {name : String} (h : name ∈ RowSet.axisFields) :
    ∀ field ∈ Metric.backlog.fields, name ≠ field := by
  simp only [RowSet.axisFields, List.mem_cons, List.not_mem_nil, or_false] at h
  rcases h with rfl | rfl | rfl <;> decide

/-- The fields of the index leave the other ones as they are. -/
theorem get?_insert_fields_of_ne {name : String} (h : ∀ field ∈ Metric.backlog.fields, name ≠ field)
    (a : Answer) (bmi closed opened : FieldValue) :
    (((a.insert field bmi).insert "closed" closed).insert "opened" opened).get? name
      = a.get? name := by
  rw [Answer.get?_insert_of_ne (h "opened" (by decide)),
    Answer.get?_insert_of_ne (h "closed" (by decide)),
    Answer.get?_insert_of_ne (h field (by decide))]

/-- The items by descending index. Items with the same index keep their order, and items without one
come last. -/
def byIndex (items : List String) (c o : String → Nat) : List String :=
  items.mergeSort fun v v' =>
    indexLe (index (.int (c v)) (.int (o v))) (index (.int (c v')) (.int (o v')))

/-- Ordered by index, the items are the same. -/
theorem perm_byIndex (items : List String) (c o : String → Nat) :
    (byIndex items c o).Perm items :=
  List.mergeSort_perm _ _

/-- The positions of a ranking pick the items in the order of their indexes. -/
theorem filterMap_ranked (items : List String) (c o : String → Nat) (limit : Option Nat) :
    ((ranked (combined items c o) limit).filterMap fun i => items[i]?)
      = limit.elim (byIndex items c o) (byIndex items c o).take := by
  obtain ⟨pairs, known, sorted, positions⟩ := exists_mergeSort_zipIdx items
    (fun v => index (.int (c v)) (.int (o v))) indexLe
  rw [byIndex, ← sorted, ranked, combined, ← positions]
  cases limit with
  | none => exact filterMap_getElem?_snd known
  | some n =>
    simp only [Option.elim_some, ← List.map_take]
    exact filterMap_getElem?_snd fun x hx => known (List.mem_of_mem_take hx)

/-- **A ranking arranges the items by their indexes**, and all lists in the same way. The ranking is
one of positions, so that it can be applied to each list. -/
theorem composes_selected (d : Dimension) (items : List String) (c o : String → Nat)
    (limit : Option Nat) :
    Composes (limit.elim (byIndex items c o) (byIndex items c o).take)
      (fun field v => entry (.int (c v)) (.int (o v)) field) d.name
      (selected d.name (combined items c o) (ranked (combined items c o) limit)) := by
  rw [← filterMap_ranked]
  -- the lists are picked by the same positions, so they still run side by side
  simp only [selected, combined, filterMap_getElem?_map]
  constructor
  · apply Answer.list?_of_get?
    rw [Answer.get?_insert_of_ne (ne_name_of_mem_fields (by decide) d),
      Answer.get?_insert_of_ne (ne_name_of_mem_fields (by decide) d),
      Answer.get?_insert_of_ne (ne_name_of_mem_fields (by decide) d), Answer.get?_insert_self]
  · intro name hn
    apply Answer.list?_of_get?
    simp only [Metric.fields, List.mem_cons, List.not_mem_nil, or_false] at hn
    rcases hn with rfl | rfl | rfl
    · rw [Answer.get?_insert_self]
      rfl
    · rw [Answer.get?_insert_of_ne (by decide), Answer.get?_insert_of_ne (by decide),
        Answer.get?_insert_self]
      rfl
    · rw [Answer.get?_insert_of_ne (by decide), Answer.get?_insert_self]
      rfl

/-! ## Single items

What the index says of an item on its own comes from two totals, each bound to the item. These are
the numbers that the entries of a breakdown have to agree with. -/

/-- The database accepts the statements of the index, which are two. They have the same conditions
but for those of closing, so they are not of the same size. -/
def Accepted (w : Warehouse) (f : Filter) (group : Option Dimension) : Prop :=
  (Count.closed.query w f group).Admitted .aggregate ∧
    (Count.opened.query w f group).Admitted .aggregate

/-- Without a limit on items, the series are accepted when the totals are. -/
theorem accepted_iff_timeSeries {group : Option Dimension} (h : group = none ∨ f.limit = none) :
    Accepted w f group ↔ (Count.closed.query w f group).Admitted .timeSeries ∧
      (Count.opened.query w f group).Admitted .timeSeries :=
  and_congr (Query.admitted_iff_of_unlimited h) (Query.admitted_iff_of_unlimited h)

/-- The index of a single item. -/
theorem exists_aggregate_only (hk : d.key? .its = some key) (every : f.selection = .every d)
    {v : String} (h : Accepted w (f.only d v) none) :
    ∃ b, aggregate w (f.only d v) = .ok b ∧ ∀ field ∈ Metric.backlog.fields,
      b.scalar? field = some (entry (.int (Count.closed.itemTotal w f d key v))
        (.int (Count.opened.itemTotal w f d key v)) field) := by
  obtain ⟨a, closed, closedTotal⟩ := Count.exists_total_only (c := .closed) hk every h.1
  obtain ⟨b, opened, openedTotal⟩ := Count.exists_total_only (c := .opened) hk every h.2
  refine ⟨_, aggregate_eq rfl closed opened closedTotal openedTotal, fun field hf => ?_⟩
  apply Answer.scalar?_of_get?
  exact get?_insert_fields .empty (fun field =>
    .scalar (entry (.int (Count.closed.itemTotal w f d key v))
      (.int (Count.opened.itemTotal w f d key v)) field)) hf

/-! ## Breakdowns

The statements of the two breakdowns are asked without a limit, and their items are united before
any is left out. The ranking looks at the index, and the limit takes from the front of it. -/

/-- A breakdown without a limit lists the items that have something. This is what makes zero right
for the others. -/
theorem itemTotal_eq_zero_iff {c : Count} (unlimited : f.limit = none) {v : String} :
    c.itemTotal w f d key v = 0 ↔ v ∉ c.listed w f d key := by
  have listed : v ∈ c.listed w f d key ↔ _ := Query.mem_rankedItems_iff unlimited
  rw [listed, ← Count.itemTotal_ne_zero_iff, not_not]

/-- An item is listed by one of the two breakdowns. It is enough that something was closed, though
its index is then undefined. -/
def Occurs (w : Warehouse) (f : Filter) (d : Dimension) (key : GroupKey) (v : String) : Prop :=
  v ∈ Count.opened.listed w f d key ∨ v ∈ Count.closed.listed w f d key

/-- The items of a breakdown are those that are listed. -/
theorem eq_listed {c : Count} (hk : d.key? c.source = some key) (every : f.selection = .every d)
    (h : (c.query w f (some d)).Admitted .aggregate) {a : Answer} {items : List String}
    (answered : c.aggregate w f = .ok a) (keys : a.list? d.name = some (items.map .text)) :
    items = c.listed w f d key := by
  obtain ⟨b, same, listed, _⟩ := Count.exists_breakdown hk every h
  rw [answered, Except.ok.injEq] at same
  rw [same, listed, Option.some.injEq] at keys
  exact (List.map_injective_iff.2 fun _ _ => Datum.text.inj) keys.symm

/-- The items of the two breakdowns, those with issues opened first. The index is not looked at
before all of them are there. -/
def united (w : Warehouse) (f : Filter) (d : Dimension) (key : GroupKey) : List String :=
  keepFirsts (Count.opened.ranked w f d key) (Count.closed.ranked w f d key)

/-- The items of the index, ranked. -/
def ranking (w : Warehouse) (f : Filter) (d : Dimension) (key : GroupKey) : List String :=
  byIndex (united w f d key) (Count.closed.itemTotal w f d key) (Count.opened.itemTotal w f d key)

/-- The ranking has no item twice. -/
theorem nodup_ranking : (ranking w f d key).Nodup :=
  (perm_byIndex _ _ _).nodup_iff.2 (nodup_keepFirsts (Query.nodup_fullRanking _ _ _))

/-- The ranking has the items with an issue closed or opened. -/
theorem mem_ranking_iff {v : String} :
    v ∈ ranking w f d key ↔
      Count.closed.itemTotal w f d key v ≠ 0 ∨ Count.opened.itemTotal w f d key v ≠ 0 := by
  rw [ranking, (perm_byIndex _ _ _).mem_iff, united, mem_keepFirsts, Count.mem_ranked_iff,
    Count.mem_ranked_iff, or_comm]

/-- The database accepts the statements of the index for every item of a dimension. -/
def BreakdownAccepted (w : Warehouse) (f : Filter) (d : Dimension) : Prop :=
  (Count.closed.breakdownQuery w f d none).Admitted .aggregate ∧
    (Count.opened.breakdownQuery w f d none).Admitted .aggregate

/-- **The index lists the front of the ranking**, as far as a limit goes. The statements do not know
the limit. -/
theorem exists_breakdown_composes (hk : d.key? .its = some key) (h : BreakdownAccepted w f d)
    (limit : Option Nat) : ∃ a, breakdown w f d limit = .ok a ∧
      Composes (limit.elim (ranking w f d key) (ranking w f d key).take)
        (fun name v => entry (.int (Count.closed.itemTotal w f d key v))
          (.int (Count.opened.itemTotal w f d key v)) name) d.name a := by
  obtain ⟨a, closed, closedKeys, closedValues⟩ :=
    Count.exists_breakdown_limited (c := .closed) hk h.1
  obtain ⟨b, opened, openedKeys, openedValues⟩ :=
    Count.exists_breakdown_limited (c := .opened) hk h.2
  -- an item that one of the breakdowns lacks has nothing there, so the default is its number
  have unlisted : ∀ (c : Count) (v : String), v ∉ c.ranked w f d key →
      c.itemTotal w f d key v = 0 := fun c v absent =>
    not_not.1 fun some => absent (Count.mem_ranked_iff.2 some)
  have combination : combine d.name a b = .ok (combined (united w f d key)
      (Count.closed.itemTotal w f d key) (Count.opened.itemTotal w f d key)) :=
    combine_eq closedKeys closedValues (unlisted .closed) openedKeys openedValues
      (unlisted .opened)
  have composes := composes_selected d (united w f d key) (Count.closed.itemTotal w f d key)
    (Count.opened.itemTotal w f d key) limit
  refine ⟨_, ?_, composes⟩
  simp only [breakdown, closed, opened, combination, bind, Except.bind, pure, Except.pure]

/-- The index has no breakdown when the database refuses one of the two. -/
theorem breakdown_refused (hk : d.key? .its = some key) (h : ¬ BreakdownAccepted w f d)
    (limit : Option Nat) : ∃ fault, breakdown w f d limit = .error (.database fault) := by
  by_cases hc : (Count.closed.breakdownQuery w f d none).Admitted .aggregate
  · obtain ⟨a, closed, _⟩ := Count.exists_breakdown_limited (c := .closed) hk hc
    obtain ⟨fault, failed⟩ := Count.breakdown_refused (c := .opened) hk fun ho => h ⟨hc, ho⟩
    exact ⟨fault, by simp only [breakdown, closed, failed, bind, Except.bind]⟩
  · obtain ⟨fault, failed⟩ := Count.breakdown_refused (c := .closed) hk hc
    exact ⟨fault, by simp only [breakdown, failed, bind, Except.bind]⟩

/-- Without a limit the statements of a filter are those of its breakdown. -/
theorem accepted_iff_breakdownAccepted (unlimited : f.limit = none) :
    Accepted w f (some d) ↔ BreakdownAccepted w f d := by
  have own : ∀ c : Count, c.breakdownQuery w f d none = c.query w f (some d) := by
    intro c
    rw [← unlimited]
    rfl
  rw [Accepted, BreakdownAccepted, own, own]

/-- The total of a filter for every item is its breakdown. -/
theorem aggregate_every (every : f.selection = .every d) (unlimited : f.limit = none) :
    aggregate w f = breakdown w f d none := by
  rw [aggregate, Filter.group?_of_every every, unlimited]

/-- **The breakdown of the index is composed item by item.** The entries of an item are those of its
own totals, and neither its place nor any other item matters to them. -/
theorem exists_aggregate_composes (hk : d.key? .its = some key) (every : f.selection = .every d)
    (unlimited : f.limit = none) (h : Accepted w f (some d)) :
    ∃ a items, aggregate w f = .ok a ∧ items.Nodup ∧
      (∀ v, v ∈ items ↔ Occurs w f d key v) ∧
      Composes items (fun field v => entry (.int (Count.closed.itemTotal w f d key v))
        (.int (Count.opened.itemTotal w f d key v)) field) d.name a := by
  obtain ⟨a, answered, composes⟩ :=
    exists_breakdown_composes hk ((accepted_iff_breakdownAccepted unlimited).1 h) none
  refine ⟨a, ranking w f d key, ?_, nodup_ranking, fun v => ?_, composes⟩
  · rw [aggregate_every every unlimited, answered]
  · rw [mem_ranking_iff, ne_eq, ne_eq, itemTotal_eq_zero_iff unlimited,
      itemTotal_eq_zero_iff unlimited, not_not, not_not, or_comm, Occurs]

/-- The index has no answer when the database refuses one of the two. -/
theorem aggregate_every_refused (hk : d.key? .its = some key) (every : f.selection = .every d)
    (unlimited : f.limit = none) (h : ¬ Accepted w f (some d)) :
    ∃ fault, aggregate w f = .error (.database fault) := by
  rw [aggregate_every every unlimited]
  exact breakdown_refused hk (fun both => h ((accepted_iff_breakdownAccepted unlimited).2 both)) _

/-- There is no total of the index where one of its two statements is not accepted. -/
theorem aggregate_refused {g : Filter} (hg : g.group? = none) (h : ¬ Accepted w g none) :
    ∃ fault, aggregate w g = .error (.database fault) := by
  by_cases hc : (Count.closed.query w g none).Admitted .aggregate
  · obtain ⟨fault, failed⟩ := Count.aggregate_refused (c := .opened) (w := w) hg
      fun ho => h ⟨hc, ho⟩
    have closed := Count.aggregate_eq hg hc
    exact ⟨fault, by simp only [aggregate, hg, closed, failed, bind, Except.bind]⟩
  · obtain ⟨fault, failed⟩ := Count.aggregate_refused (c := .closed) (w := w) hg hc
    exact ⟨fault, by simp only [aggregate, hg, failed, bind, Except.bind]⟩

/-! ## Series

A series broken down has a list of values for every item, and the two series are joined as the
totals were. The buckets need not be compared: both series have those of the window. -/

variable {axis : List Period.Bucket}

/-- **Two series broken down are combined item by item**, and bucket by bucket. They have the same
buckets, those of the window, so the values of an item stand under each other. -/
theorem groupedSeries_eq {name : String} {closed opened out : Answer}
    {closedItems openedItems : List String} (c o : String → Int → Nat)
    (buckets : out.list? bucketField = some (axis.map fun b => .int b.id))
    (closedKeys : closed.list? name = some (closedItems.map .text))
    (closedValues : closed.grouped? "closed"
      = some (closedItems.map fun v => axis.map fun b => .int (c v b.id)))
    (closedRest : ∀ v, v ∉ closedItems → ∀ i, c v i = 0)
    (openedKeys : opened.list? name = some (openedItems.map .text))
    (openedValues : opened.grouped? "opened"
      = some (openedItems.map fun v => axis.map fun b => .int (o v b.id)))
    (openedRest : ∀ v, v ∉ openedItems → ∀ i, o v i = 0) :
    groupedSeries name closed opened out
      = .ok ((((out.insert name (.list ((keepFirsts openedItems closedItems).map .text))).insert
        field (.grouped ((keepFirsts openedItems closedItems).map fun v => axis.map fun b =>
          index (.int (c v b.id)) (.int (o v b.id))))).insert
        "closed" (.grouped ((keepFirsts openedItems closedItems).map fun v => axis.map fun b =>
          .int (c v b.id)))).insert
        "opened" (.grouped ((keepFirsts openedItems closedItems).map fun v => axis.map fun b =>
          .int (o v b.id)))) := by
  have zeros : ∀ n : Int → Nat, (∀ i, n i = 0) →
      (axis.map fun b => Datum.int (n b.id)) = List.replicate axis.length (.int 0) := by
    intro n none
    rw [← List.map_const']
    exact List.map_congr_left fun b _ => by rw [none]; rfl
  have closedEntries := map_entryOf (g := fun v => axis.map fun b => Datum.int (c v b.id)) _
    (fun v absent => zeros (c v) (closedRest v absent)) (keepFirsts openedItems closedItems)
  have openedEntries := map_entryOf (g := fun v => axis.map fun b => Datum.int (o v b.id)) _
    (fun v absent => zeros (o v) (openedRest v absent)) (keepFirsts openedItems closedItems)
  simp only [groupedSeries, buckets, closedKeys, closedValues, openedKeys, openedValues, need,
    unionItems, keepFirsts_map_text, Option.getD_some, List.length_map, closedEntries,
    openedEntries, indexes, List.zipWith_map, List.zipWith_self, bind, Except.bind, pure,
    Except.pure]

/-- The series of a count, broken down. -/
theorem exists_series_every {c : Count} (hk : d.key? c.source = some key)
    (every : f.selection = .every d) (unlimited : f.limit = none)
    (h : (c.query w f (some d)).Admitted .timeSeries)
    (buckets : f.period.buckets f.start f.stop = .ok axis)
    (placed : (c.query w f (some d)).Placed ((c.query w f (some d)).matchesIn w) axis) :
    ∃ (a : Answer) (items : List String), c.series w f = .ok a ∧ items.Nodup ∧
      (∀ v, v ∈ items ↔ v ∈ c.listed w f d key) ∧
      (∀ v, v ∉ items → ∀ i, c.itemBucketTotal w f d key i v = 0) ∧
      a.list? d.name = some (items.map .text) ∧
      a.grouped? c.id = some (items.map fun v => axis.map fun b =>
        .int (c.itemBucketTotal w f d key b.id v)) ∧
      ∀ name ∈ RowSet.axisFields,
        a.get? name = (RowSet.insertAxis f.period axis .empty).get? name := by
  obtain ⟨items, nodup, mem, answered⟩ :=
    Count.series_every_eq rfl (Filter.group?_of_every every) hk h buckets placed
  have listed : ∀ v, v ∈ c.listed w f d key ↔ _ := fun v => Query.mem_rankedItems_iff unlimited
  refine ⟨_, items, answered, nodup, fun v => (mem v).trans (listed v).symm, ?_, ?_, ?_, ?_⟩
  · intro v absent i
    refine Query.itemCount_eq_zero fun there => absent ((mem v).2 ?_)
    obtain ⟨m, hm, found⟩ := there
    exact ⟨m, (Query.mem_inBucket_iff.1 hm).1, found⟩
  · apply Answer.list?_of_get?
    rw [Answer.get?_insert_self]
  · apply Answer.grouped?_of_get?
    rw [Answer.get?_insert_of_ne (c.name_ne_id d).symm, Answer.get?_insert_self]
    rfl
  · intro name hn
    rw [Answer.get?_insert_of_ne (d.ne_name_of_mem hn),
      Answer.get?_insert_of_ne (c.ne_id_of_mem hn)]

/-- The series of an item, over the buckets of the window. -/
def itemSeries (w : Warehouse) (f : Filter) (d : Dimension) (key : GroupKey)
    (axis : List Period.Bucket) (name v : String) : List Datum :=
  axis.map fun b => entry (.int (Count.closed.itemBucketTotal w f d key b.id v))
    (.int (Count.opened.itemBucketTotal w f d key b.id v)) name

/-- **The series of the index, broken down, is composed item by item.** The items of the series are
those of the totals, since every event of the window is in a bucket. -/
theorem exists_series_composes (hk : d.key? .its = some key) (every : f.selection = .every d)
    (unlimited : f.limit = none) (h : Accepted w f (some d)) (timely : w.Timely)
    (first : f.start.FourDigit) (last : f.stop.FourDigit)
    (buckets : f.period.buckets f.start f.stop = .ok axis)
    (is_axis : f.period.IsAxis f.start f.stop axis) :
    ∃ (a : Answer) (items : List String), series w f = .ok a ∧ items.Nodup ∧
      (∀ v, v ∈ items ↔ Occurs w f d key v) ∧
      a.list? d.name = some (items.map .text) ∧
      (∀ name ∈ Metric.backlog.fields,
        a.grouped? name = some (items.map (itemSeries w f d key axis name))) ∧
      ∀ name ∈ RowSet.axisFields,
        a.get? name = (RowSet.insertAxis f.period axis .empty).get? name := by
  obtain ⟨hc, ho⟩ := (accepted_iff_timeSeries (.inr unlimited)).1 h
  obtain ⟨ca, ci, closed, _, closedMem, closedRest, closedKeys, closedValues, _⟩ :=
    exists_series_every (c := .closed) hk every unlimited hc buckets
      (Count.placed timely first last is_axis)
  obtain ⟨oa, oi, opened, nodup, openedMem, openedRest, openedKeys, openedValues, openedAxis⟩ :=
    exists_series_every (c := .opened) hk every unlimited ho buckets
      (Count.placed timely first last is_axis)
  have axisBuckets := Answer.list?_of_get? (RowSet.get?_insertAxis_bucketField f.period axis .empty)
  -- both series have the buckets of the window, so their values are combined place by place
  have combination := groupedSeries_eq (fun v i => Count.closed.itemBucketTotal w f d key i v)
    (fun v i => Count.opened.itemBucketTotal w f d key i v) axisBuckets closedKeys closedValues
    closedRest openedKeys openedValues openedRest
  have answered : series w f
      = groupedSeries d.name ca oa (RowSet.insertAxis f.period axis .empty) := by
    simp only [series, closed, opened, copyAxis_eq openedAxis, Filter.group?_of_every every, bind,
      Except.bind]
  refine ⟨_, keepFirsts oi ci, answered.trans combination, nodup_keepFirsts nodup, fun v => ?_, ?_,
    ?_, ?_⟩
  · exact mem_keepFirsts.trans (or_congr (openedMem v) (closedMem v))
  · apply Answer.list?_of_get?
    rw [get?_insert_fields_of_ne fun name hn => ne_name_of_mem_fields hn d, Answer.get?_insert_self]
  · intro name hn
    apply Answer.grouped?_of_get?
    exact get?_insert_fields _
      (fun name => .grouped ((keepFirsts oi ci).map (itemSeries w f d key axis name))) hn
  · intro name hn
    rw [get?_insert_fields_of_ne (ne_fields_of_mem hn), Answer.get?_insert_of_ne
      (d.ne_name_of_mem hn)]

/-- The series of a count for a single item. -/
theorem series_only_eq {c : Count} (hk : d.key? c.source = some key)
    (every : f.selection = .every d) {v : String}
    (h : (c.query w (f.only d v) none).Admitted .aggregate) (timely : w.Timely)
    (first : f.start.FourDigit) (last : f.stop.FourDigit)
    (buckets : f.period.buckets f.start f.stop = .ok axis)
    (is_axis : f.period.IsAxis f.start f.stop axis) :
    c.series w (f.only d v) = .ok ((RowSet.insertAxis f.period axis .empty).insert c.id
      (.list (axis.map fun b => .int (c.itemBucketTotal w f d key b.id v)))) := by
  have answered := Count.series_eq rfl rfl ((Query.admitted_iff_of_unlimited (.inl rfl)).1 h)
    buckets (Count.placed timely first last is_axis)
  simp only [Count.count_inBucket_only hk every] at answered
  exact answered

/-- The series of the index for a single item. -/
theorem exists_series_only (hk : d.key? .its = some key) (every : f.selection = .every d)
    {v : String} (h : Accepted w (f.only d v) none) (timely : w.Timely)
    (first : f.start.FourDigit) (last : f.stop.FourDigit)
    (buckets : f.period.buckets f.start f.stop = .ok axis)
    (is_axis : f.period.IsAxis f.start f.stop axis) :
    ∃ b, series w (f.only d v) = .ok b ∧
      (∀ name ∈ Metric.backlog.fields, b.list? name = some (itemSeries w f d key axis name v)) ∧
      ∀ name ∈ RowSet.axisFields,
        b.get? name = (RowSet.insertAxis f.period axis .empty).get? name := by
  refine ⟨_, series_eq (fun i => .int (Count.closed.itemBucketTotal w f d key i v))
    (fun i => .int (Count.opened.itemBucketTotal w f d key i v)) rfl
    (series_only_eq (c := .closed) hk every h.1 timely first last buckets is_axis)
    (series_only_eq (c := .opened) hk every h.2 timely first last buckets is_axis), ?_, ?_⟩
  · intro name hn
    apply Answer.list?_of_get?
    exact get?_insert_fields _ (fun name => .list (itemSeries w f d key axis name v)) hn
  · intro name hn
    exact get?_insert_fields_of_ne (ne_fields_of_mem hn) _ _ _ _

/-- The series of the index, broken down, fails when the database refuses one of the two. -/
theorem series_every_refused (hk : d.key? .its = some key) (every : f.selection = .every d)
    (unlimited : f.limit = none) (h : ¬ Accepted w f (some d)) (timely : w.Timely)
    (first : f.start.FourDigit) (last : f.stop.FourDigit) :
    ∃ fault, series w f = .error (.database fault) := by
  refine series_refused_of_key (Filter.group?_of_every every)
    (Count.key?_breakdownQuery (c := .closed) w f f.limit hk)
    (Count.key?_breakdownQuery (c := .opened) w f f.limit hk)
    (fun accepted => h ((accepted_iff_timeSeries (.inr unlimited)).2 accepted)) fun closed => ?_
  obtain ⟨a, _, answered, _⟩ := Count.seriesAgree (c := .closed) hk every closed timely first last
  exact ⟨a, answered⟩

/-- The series of the index for a single item fails when the database refuses one of the two. -/
theorem series_only_refused (hk : d.key? .its = some key) (every : f.selection = .every d)
    {v : String} (h : ¬ Accepted w (f.only d v) none) (timely : w.Timely)
    (first : f.start.FourDigit) (last : f.stop.FourDigit) :
    ∃ fault, series w (f.only d v) = .error (.database fault) := by
  obtain ⟨axis, buckets, is_axis⟩ := f.period.exists_axis first last f.start_lt_stop
  refine series_refused rfl (fun accepted => h ((accepted_iff_timeSeries (.inl rfl)).2 accepted))
    fun closed => ⟨_, series_only_eq (c := .closed) hk every ?_ timely first last buckets is_axis⟩
  exact (Query.admitted_iff_of_unlimited (.inl rfl)).2 closed

/-! ## The theorem

For totals and series alike, every item has what it has on its own, provided that the database
accepts the question about it. -/

/-- The items are those that two breakdowns list, in whatever order. -/
def Unites (d : Dimension) (closed opened : Answer) (items : List String) : Prop :=
  ∃ c o : List String, closed.list? d.name = some (c.map .text) ∧
    opened.list? d.name = some (o.map .text) ∧ ∀ v, v ∈ items ↔ v ∈ o ∨ v ∈ c

/-- The breakdown of the index lists the answers of single items, as far as these are accepted. The
entries are given before the answers of single items are looked at, so an item has them even if its
own answer is refused. -/
structure TotalsCompose (w : Warehouse) (f : Filter) (d : Dimension) (items : List String)
    (a : Answer) : Prop where
  /-- No item is repeated. -/
  nodup : items.Nodup
  /-- The items are listed. -/
  keys : a.list? d.name = some (items.map .text)
  /-- The entries of the items are listed with them, and the index is undefined where nothing was
  opened. -/
  totals : ∃ entries : String → String → Datum,
    (∀ name ∈ Metric.backlog.fields, a.list? name = some (items.map (entries name))) ∧
    (∀ v, entries field v = .null ↔ entries "opened" v = .int 0) ∧
    ∀ v, Accepted w (f.only d v) none → ∃ b, aggregate w (f.only d v) = .ok b ∧
      ∀ name ∈ Metric.backlog.fields, b.scalar? name = some (entries name v)

/-- The series of the index, broken down, lists the series of single items, as far as these are
accepted. The buckets of the single series are those of the whole. -/
structure SeriesCompose (w : Warehouse) (f : Filter) (d : Dimension) (items : List String)
    (a : Answer) : Prop where
  /-- No item is repeated. -/
  nodup : items.Nodup
  /-- The items are listed. -/
  keys : a.list? d.name = some (items.map .text)
  /-- The series of the items are listed with them, over the same buckets, and the index is
  undefined in the buckets in which nothing was opened. -/
  series : ∃ values : String → String → List Datum,
    (∀ name ∈ Metric.backlog.fields, a.grouped? name = some (items.map (values name))) ∧
    (∀ (v : String) (k : Nat), (values field v)[k]? = some Datum.null ↔
      (values "opened" v)[k]? = some (Datum.int 0)) ∧
    ∀ v, Accepted w (f.only d v) none → ∃ b, series w (f.only d v) = .ok b ∧
      (∀ name ∈ Metric.backlog.fields, b.list? name = some (values name v)) ∧
      ∀ name ∈ RowSet.axisFields, b.list? name = a.list? name

/-- The breakdown of the index lists the answers of single items. -/
theorem totalsCompose (hk : d.key? .its = some key) (every : f.selection = .every d)
    (unlimited : f.limit = none) (h : Accepted w f (some d)) :
    ∃ a items, aggregate w f = .ok a ∧ TotalsCompose w f d items a ∧
      ∀ v, v ∈ items ↔ Occurs w f d key v := by
  obtain ⟨a, items, answered, nodup, mem, composes⟩ :=
    exists_aggregate_composes hk every unlimited h
  refine ⟨a, items, answered, ⟨nodup, composes.keys, _, composes.fields, fun v => ?_, fun v =>
    exists_aggregate_only hk every⟩, mem⟩
  show index _ _ = _ ↔ Datum.int _ = _
  rw [index_eq_null_iff, Datum.int.injEq, Int.natCast_eq_zero]

/-- An entry of the series of an item is undefined where nothing was opened. -/
theorem itemSeries_eq_null_iff (v : String) (k : Nat) :
    (itemSeries w f d key axis field v)[k]? = some .null ↔
      (itemSeries w f d key axis "opened" v)[k]? = some (.int 0) := by
  simp only [itemSeries, List.getElem?_map, Option.map_eq_some_iff, entry_field, entry_opened,
    index_eq_null_iff, Datum.int.injEq, Int.natCast_eq_zero]

/-- The series of the index, broken down, lists the series of single items. -/
theorem seriesCompose (hk : d.key? .its = some key) (every : f.selection = .every d)
    (unlimited : f.limit = none) (h : Accepted w f (some d)) (timely : w.Timely)
    (first : f.start.FourDigit) (last : f.stop.FourDigit) :
    ∃ a items, series w f = .ok a ∧ SeriesCompose w f d items a ∧
      ∀ v, v ∈ items ↔ Occurs w f d key v := by
  obtain ⟨axis, buckets, is_axis⟩ := f.period.exists_axis first last f.start_lt_stop
  obtain ⟨a, items, answered, nodup, mem, keys, fields, axisFields⟩ :=
    exists_series_composes hk every unlimited h timely first last buckets is_axis
  refine ⟨a, items, answered, ⟨nodup, keys, _, fields, itemSeries_eq_null_iff, ?_⟩, mem⟩
  intro v accepted
  obtain ⟨b, single, values, singleFields⟩ :=
    exists_series_only hk every accepted timely first last buckets is_axis
  refine ⟨b, single, values, fun name hn => ?_⟩
  rw [Answer.list?, Answer.list?, singleFields name hn, axisFields name hn]

/-- The items of the two breakdowns are united. -/
theorem exists_unites_aggregates (hk : d.key? .its = some key) (every : f.selection = .every d)
    (h : Accepted w f (some d)) {items : List String}
    (mem : ∀ v, v ∈ items ↔ Occurs w f d key v) :
    ∃ closed opened, Count.closed.aggregate w f = .ok closed ∧
      Count.opened.aggregate w f = .ok opened ∧ Unites d closed opened items := by
  obtain ⟨closed, hc, closedKeys, _⟩ := Count.exists_breakdown (c := .closed) hk every h.1
  obtain ⟨opened, ho, openedKeys, _⟩ := Count.exists_breakdown (c := .opened) hk every h.2
  exact ⟨closed, opened, hc, ho, _, _, closedKeys, openedKeys, mem⟩

/-- The items of the two series broken down are united. -/
theorem exists_unites_series (hk : d.key? .its = some key) (every : f.selection = .every d)
    (unlimited : f.limit = none) (h : Accepted w f (some d)) (timely : w.Timely)
    (first : f.start.FourDigit) (last : f.stop.FourDigit) {items : List String}
    (mem : ∀ v, v ∈ items ↔ Occurs w f d key v) :
    ∃ closed opened, Count.closed.series w f = .ok closed ∧
      Count.opened.series w f = .ok opened ∧ Unites d closed opened items := by
  have both := (accepted_iff_timeSeries (.inr unlimited)).1 h
  have listed : ∀ {c : Count} {v}, v ∈ c.listed w f d key ↔ _ :=
    Query.mem_rankedItems_iff unlimited
  obtain ⟨closed, c, hc, closedAgree, closedMem⟩ :=
    Count.seriesAgree (c := .closed) hk every both.1 timely first last
  obtain ⟨opened, o, ho, openedAgree, openedMem⟩ :=
    Count.seriesAgree (c := .opened) hk every both.2 timely first last
  refine ⟨closed, opened, hc, ho, c, o, closedAgree.keys, openedAgree.keys, fun v => ?_⟩
  rw [mem, Occurs, listed, listed, closedMem, openedMem]

/-- **The index is composed item by item.** Without a limit the breakdown lists the items of the two
breakdowns that it is composed of, each once, with the entries that the item has on its own. Where
events are dated by stamps, the series broken down lists the same items with their own series. All
statements that the database does not accept fail in it.

Projects are left out, whose items are not told apart by a single key. The answer of a single item
is compared where it is accepted: it binds the item, which costs a mark that the breakdown does not
need. -/
theorem composed_by_item (w : Warehouse) {f : Filter} {d : Dimension} (hd : d ≠ .project)
    (every : f.selection = .every d) (unlimited : f.limit = none) :
    (Accepted w f (some d) →
      ∃ a closed opened items, aggregate w f = .ok a ∧ Count.closed.aggregate w f = .ok closed ∧
        Count.opened.aggregate w f = .ok opened ∧ Unites d closed opened items ∧
        TotalsCompose w f d items a ∧
        (w.Timely → f.start.FourDigit → f.stop.FourDigit →
          ∃ b closed' opened' items', series w f = .ok b ∧ Count.closed.series w f = .ok closed' ∧
            Count.opened.series w f = .ok opened' ∧ Unites d closed' opened' items' ∧
            SeriesCompose w f d items' b ∧ ∀ v, v ∈ items' ↔ v ∈ items)) ∧
    (¬ Accepted w f (some d) →
      (∃ fault, aggregate w f = .error (.database fault)) ∧
        (w.Timely → f.start.FourDigit → f.stop.FourDigit →
          ∃ fault, series w f = .error (.database fault))) ∧
    ∀ v, ¬ Accepted w (f.only d v) none →
      (∃ fault, aggregate w (f.only d v) = .error (.database fault)) ∧
        (w.Timely → f.start.FourDigit → f.stop.FourDigit →
          ∃ fault, series w (f.only d v) = .error (.database fault)) := by
  obtain ⟨key, hk⟩ := Dimension.exists_key? hd .its
  refine ⟨fun h => ?_, fun h => ⟨aggregate_every_refused hk every unlimited h,
    series_every_refused hk every unlimited h⟩, fun v h => ⟨aggregate_refused rfl h,
    series_only_refused hk every h⟩⟩
  obtain ⟨a, items, answered, compose, mem⟩ := totalsCompose hk every unlimited h
  obtain ⟨closed, opened, hc, ho, unites⟩ := exists_unites_aggregates hk every h mem
  refine ⟨a, closed, opened, items, answered, hc, ho, unites, compose, fun timely first last => ?_⟩
  obtain ⟨b, items', answered', compose', mem'⟩ :=
    seriesCompose hk every unlimited h timely first last
  obtain ⟨closed', opened', hc', ho', unites'⟩ :=
    exists_unites_series hk every unlimited h timely first last mem'
  exact ⟨b, closed', opened', items', answered', hc', ho', unites', compose',
    fun v => (mem' v).trans (mem v).symm⟩

end Backlog

/-- A tracker with an issue of 2024 that is closed in January 2025, and another with an issue of
January. -/
def Warehouse.twoTrackers : Warehouse :=
  .load .empty
    [.nameTracker "t", .nameTracker "u", .insertIssue 1 "1" none "2024-12-30",
      .insertIssue 2 "2" none "2025-01-02", .insertChange 1 "status" "CLOSED" none "2025-01-03"]

theorem Warehouse.timely_twoTrackers : twoTrackers.Timely := by
  have issues : (Event.issues.records twoTrackers).map (·.date) = ["2024-12-30", "2025-01-02"] := by
    decide
  have changes : (Event.changes.records twoTrackers).map (·.date) = ["2025-01-03"] := by decide
  have dated : ∀ d : Date, d.FourDigit → ∀ r : EventRecord, r.date = d.text →
      ∃ d : Date, d.FourDigit ∧ d.Stamp r.date := fun d digits r same => ⟨d, digits, same ▸ .date⟩
  intro e r known
  have date := List.mem_map.2 ⟨r, known, Eq.refl r.date⟩
  cases e with
  | commits | commitsByCommitter => cases known
  | issues =>
    rw [issues, List.mem_pair] at date
    rcases date with date | date
    · exact dated ⟨20087, by decide, by decide⟩ (by decide) r (date.trans (by decide))
    · exact dated ⟨20090, by decide, by decide⟩ (by decide) r (date.trans (by decide))
  | changes =>
    rw [changes, List.mem_singleton] at date
    exact dated ⟨20091, by decide, by decide⟩ (by decide) r (date.trans (by decide))

namespace Backlog

/-- One of two trackers has only closed issues in January, and the other only opened ones. The
breakdown lists both, and so does the series. -/
theorem composed_by_item_twoTrackers :
    ∃ a items, aggregate .twoTrackers (.january (.every .repository)) = .ok a ∧
      TotalsCompose .twoTrackers (.january (.every .repository)) .repository items a ∧
      "t" ∈ items ∧ "u" ∈ items ∧
      ∃ b items', series .twoTrackers (.january (.every .repository)) = .ok b ∧
        SeriesCompose .twoTrackers (.january (.every .repository)) .repository items' b ∧
        ∀ v, v ∈ items' ↔ v ∈ items := by
  have key : Dimension.repository.key? .its = some (.repository .its) := rfl
  have every : (Filter.january (.every .repository)).selection = .every .repository := rfl
  have accepted : Accepted .twoTrackers (.january (.every .repository)) (some .repository) :=
    ⟨by decide, by decide⟩
  obtain ⟨a, closed, opened, items, answered, hc, ho, ⟨c, o, closedKeys, openedKeys, mem⟩, compose,
    rest⟩ := (composed_by_item .twoTrackers (by decide) every rfl).1 accepted
  obtain ⟨b, _, _, items', answered', _, _, _, compose', same⟩ :=
    rest Warehouse.timely_twoTrackers (by decide) (by decide)
  have closedListed : c = ["t"] :=
    (eq_listed (c := .closed) key every accepted.1 hc closedKeys).trans (by cbv)
  have openedListed : o = ["u"] :=
    (eq_listed (c := .opened) key every accepted.2 ho openedKeys).trans (by cbv)
  refine ⟨a, items, answered, compose, (mem "t").2 (.inr ?_), (mem "u").2 (.inl ?_), b, items',
    answered', compose', same⟩
  · rw [closedListed]
    exact List.mem_singleton_self _
  · rw [openedListed]
    exact List.mem_singleton_self _

end Backlog

/-! ## One mark too many

To ask for one item takes a mark for its name, which the breakdown does not need. -/

namespace Backlog

variable (more : Nat)

/-- The tracker is listed among those with issues opened. -/
theorem opened_listed_closedBy :
    Count.opened.listed .closedIssue (.closedBy more) .repository (.repository .its) = ["t"] := by
  cbv

/-- The tracker has one issue opened. -/
theorem opened_itemTotal_closedBy :
    Count.opened.itemTotal .closedIssue (.closedBy more) .repository (.repository .its) "t"
      = 1 := by
  cbv

/-- **The index of a listed item may be refused.** A breakdown that has as many marks as there may
be lists a tracker, and the database refuses the index of the tracker. -/
theorem breakdown_accepted_single_refused :
    Warehouse.closedIssue.Reachable ∧
    (∃ a, aggregate .closedIssue (.closedBy 32762) = .ok a ∧
      a.list? "repository" = some [.text "t"] ∧ a.list? "closed" = some [.int 1] ∧
      a.list? "opened" = some [.int 1]) ∧
    ∃ fault, aggregate .closedIssue ((Filter.closedBy 32762).only .repository "t")
      = .error (.database fault) := by
  refine ⟨⟨_, rfl⟩, ?_, ?_⟩
  · have key : Dimension.repository.key? .its = some (.repository .its) := rfl
    have accepted : Accepted .closedIssue (.closedBy 32762) (some .repository) :=
      ⟨⟨Nat.le_of_eq (Count.marksOf_closedBy 32762), by decide⟩, by decide⟩
    obtain ⟨a, items, answered, nodup, mem, composes⟩ :=
      exists_aggregate_composes key rfl rfl accepted
    have tracker : items = ["t"] := by
      refine List.perm_singleton.1
        ((List.perm_ext_iff_of_nodup nodup (List.nodup_singleton _)).2 fun v => ?_)
      rw [mem, Occurs, opened_listed_closedBy, Count.listed_closedBy, or_self]
    obtain ⟨keys, fields⟩ := composes
    simp only [tracker, List.map_singleton, Count.itemTotal_closedBy,
      opened_itemTotal_closedBy] at keys fields
    exact ⟨a, answered, keys, fields "closed" (by decide), fields "opened" (by decide)⟩
  · refine aggregate_refused rfl fun accepted => ?_
    have marks : 32762 + 5 ≤ Limits.marks := Count.marksOf_closedBy_only 32762 ▸ accepted.1.1
    exact absurd marks (by decide)

end Backlog

end ActivityMetrics
