import ActivityMetrics.Proofs.Distinct
import ActivityMetrics.Proofs.Metric.Clauses
import ActivityMetrics.Proofs.Query.Limits
import ActivityMetrics.Proofs.Query.Statement

/-!
# Rows of a query

A query whose dimension has items is answered exactly when the database accepts its statement
(`Query.run_of_admitted`, `Query.run_of_not_admitted`). Its rows count distinct values among its
matches, item by item, and the numbers of items add up where the items share no value
(`Query.sum_itemCount`). Since every match of a query has a value, a count is zero only where there
is no match (`Count.count_eq_zero_iff`).

To run a query takes three steps that may fail: the key of its dimension, the text of its statement,
and the database. The first fails for projects alone, the second never does if the first has not,
and the third is decided by two numbers of the statement. So whether there are rows is a condition
on the filter that can be computed, and it is the condition that most theorems about answers have.

What is in the rows depends on the matches in one way only, through the set of values that they
have. This is why later modules compare queries by their sets of matches and never by the lists,
which differ in order and repetition for reasons that have nothing to do with the question.
-/

namespace ActivityMetrics

/-! ## Counting

A count is the number of different values. It is compared with another count by comparing the values
that occur. -/

namespace Counted

variable {c : Counted} {ms ms' : List Match}

/-- **A count depends only on which matches there are.** -/
theorem count_congr (h : ∀ m, m ∈ ms ↔ m ∈ ms') : c.count ms = c.count ms' := by
  refine length_eraseDups_congr fun value => ?_
  simp only [List.mem_filterMap, h]

/-- A count is not greater when every value occurs among the other matches, too. -/
theorem count_le (h : ∀ m ∈ ms, ∃ m' ∈ ms', c.valueOf m' = c.valueOf m) :
    c.count ms ≤ c.count ms' := by
  refine length_eraseDups_le fun value there => ?_
  obtain ⟨m, hm, found⟩ := List.mem_filterMap.1 there
  obtain ⟨m', hm', same⟩ := h m hm
  exact List.mem_filterMap.2 ⟨m', hm', same.trans found⟩

/-- Matches of two lists have no more values than the two lists by themselves. -/
theorem count_le_add {ms'' : List Match} (h : ∀ m ∈ ms, m ∈ ms' ∨ m ∈ ms'') :
    c.count ms ≤ c.count ms' + c.count ms'' := by
  refine Nat.le_trans ?_ (length_eraseDups_append_le (ms'.filterMap c.valueOf) _)
  rw [← List.filterMap_append]
  exact count_le fun m hm => ⟨m, List.mem_append.2 (h m hm), rfl⟩

/-- A count is zero where nothing has a value. -/
theorem count_eq_zero_iff : c.count ms = 0 ↔ ∀ m ∈ ms, c.valueOf m = none := by
  unfold count
  rw [List.length_eq_zero_iff]
  constructor
  · intro h m hm
    refine Option.eq_none_iff_forall_ne_some.2 fun value found => ?_
    have there : value ∈ (ms.filterMap c.valueOf).eraseDups :=
      List.mem_eraseDups.2 (List.mem_filterMap.2 ⟨m, hm, found⟩)
    rw [h] at there
    cases there
  · intro h
    rw [List.filterMap_eq_nil_iff.2 h]
    rfl

end Counted

namespace Count

variable {c : Count} {w : Warehouse} {f : Filter} {group : Option Dimension} {m : Match}

/-- **Every match of a query has a value.** Events have their numbers, and the people who are
counted are linked by the metric itself, so that no match is without one. -/
theorem isSome_valueOf (h : m ∈ (c.query w f group).matchesIn w) :
    ((c.query w f group).counted.valueOf m).isSome := by
  obtain ⟨⟨known, _⟩, _, links, _⟩ := (Clauses.mem_matchesIn_iff (c.chain_query w f group)).1 h
  -- the people who are counted are linked by the base
  have person : .identity ∈ (c.definition f).base.joins → m.identity.isSome := by
    intro base
    exact Link.Holds.filled (links _ (mem_joins_query.2 (.inl base)))
  cases c with
  | commits | repositories =>
    obtain ⟨r, _, record⟩ := List.mem_map.1 known
    show (Counted.valueOf _ m).isSome
    unfold Counted.valueOf
    rw [← record]
    rfl
  | opened | closed =>
    obtain ⟨r, _, record⟩ := List.mem_map.1 known
    show (Counted.valueOf _ m).isSome
    unfold Counted.valueOf
    rw [← record]
    rfl
  | authors | committers | openers =>
    show (m.identity.map _).isSome
    rw [Option.isSome_map]
    exact person List.mem_cons_self
  | closers =>
    show (m.identity.map _).isSome
    rw [Option.isSome_map]
    exact person (List.mem_cons_of_mem _ List.mem_cons_self)

/-- **A count is zero only where there is no match.** -/
theorem count_eq_zero_iff {ms : List Match} (h : ∀ m ∈ ms, m ∈ (c.query w f group).matchesIn w) :
    (c.query w f group).counted.count ms = 0 ↔ ms = [] := by
  rw [Counted.count_eq_zero_iff]
  constructor
  · intro none_counted
    refine List.eq_nil_iff_forall_not_mem.2 fun m hm => ?_
    have counted := isSome_valueOf (h m hm)
    rw [none_counted m hm] at counted
    cases counted
  · rintro rfl m hm
    cases hm

end Count

namespace Query

variable {q : Query} {w : Warehouse} {mode : Mode}

/-! ## Acceptance

What the database makes of a statement is decided by its marks and by its depth. Both come from the
clauses; the limit of a ranking is one mark more. -/

/-- The statement of a query has a limit on its rows. Only a total by item has one, and it takes a
mark. -/
def limited (q : Query) (mode : Mode) : Bool :=
  mode = .aggregate ∧ q.group.isSome ∧ q.limit.isSome

/-- The database accepts the statement of a query. This is the one condition on which answers depend
that cannot be seen from the warehouse, and it is a condition on the size of the statement: how many
marks it has and how deep it is. It is decidable, so that whether a given query is accepted can be
calculated. -/
def Admitted (q : Query) (mode : Mode) : Prop :=
  Limits.marksOf q.event q.clauses (q.limited mode) ≤ Limits.marks ∧
    q.clauses.reach ≤ Limits.depth

instance : Decidable (q.Admitted mode) :=
  inferInstanceAs (Decidable (_ ∧ _))

/-- Without a limit on items, one way of asking is accepted when the other is. -/
theorem admitted_iff_of_unlimited (h : q.group = none ∨ q.limit = none) :
    q.Admitted .aggregate ↔ q.Admitted .timeSeries := by
  have unlimited : q.limited .aggregate = q.limited .timeSeries := by
    unfold limited
    rcases h with h | h <;> simp [h]
  rw [Admitted, Admitted, unlimited]

/-- There is no fault exactly where the statement is accepted. -/
theorem fault?_eq_none_iff {text : String} : q.fault? mode text = none ↔ q.Admitted mode := by
  rw [fault?, Limits.fault?, Option.map_eq_none_iff]
  exact Limits.excess?_eq_none_iff

/-- A statement of a query has a value to select. -/
theorem fields_ne_nil (q : Query) : q.statement.fields ≠ [] :=
  List.cons_ne_nil _ _

/-- A query whose items can be told apart is compiled. -/
theorem exists_compile_of_keyed (keyed : ∀ d ∈ q.group, (d.key? q.source).isSome) (mode : Mode) :
    ∃ compiled, q.statement.compile mode = .ok compiled := by
  refine Statement.exists_compile_iff.2 ⟨q.fields_ne_nil, fun d unkeyed => ?_⟩
  obtain ⟨d', hd, same⟩ := Option.map_eq_some_iff.1 unkeyed
  obtain ⟨k, hk⟩ := Option.isSome_iff_exists.1 (keyed d' hd)
  rw [hk] at same
  cases same

/-- A query that has a key has one for its dimension. -/
theorem isSome_key_of_key? {key : Option (Dimension × GroupKey)} (hk : q.key? = .ok key) :
    ∀ d ∈ q.group, (d.key? q.source).isSome := by
  intro d hd
  rw [key?, show q.group = some d from hd] at hk
  cases own : d.key? q.source with
  | some k => rfl
  | none =>
    simp only [own] at hk
    cases hk

/-- A query whose dimension has a key in its source has a statement that is compiled. -/
theorem exists_compile {key : Option (Dimension × GroupKey)} (hk : q.key? = .ok key)
    (mode : Mode) : ∃ compiled, q.statement.compile mode = .ok compiled :=
  exists_compile_of_keyed (isSome_key_of_key? hk) mode

/-- **An accepted statement is answered with the rows of the query.** -/
theorem run_of_admitted {key : Option (Dimension × GroupKey)} (hk : q.key? = .ok key)
    (h : q.Admitted mode) : q.run w mode = .ok (q.rows w mode key) := by
  obtain ⟨compiled, hc⟩ := exists_compile hk mode
  simp only [run, hk, hc, fault?_eq_none_iff.2 h, bind, Except.bind, pure, Except.pure]

/-- **A statement that is not accepted fails in the database.** -/
theorem run_of_not_admitted {key : Option (Dimension × GroupKey)} (hk : q.key? = .ok key)
    (h : ¬ q.Admitted mode) : ∃ fault, q.run w mode = .error (.database fault) := by
  obtain ⟨compiled, hc⟩ := exists_compile hk mode
  cases hf : q.fault? mode compiled.text with
  | none => exact absurd (fault?_eq_none_iff.1 hf) h
  | some fault =>
    refine ⟨fault, ?_⟩
    simp only [run, hk, hc, hf, bind, Except.bind]
    rfl

end Query

namespace Count

/-- No link is joined twice. -/
theorem nodup_joins_query (c : Count) (w : Warehouse) (f : Filter) (group : Option Dimension) :
    (c.query w f group).clauses.joins.Nodup := by
  have base : (c.definition f).base.joins.Nodup := by
    cases c <;> exact of_decide_eq_true rfl
  cases group with
  | none => exact nodup_keepFirsts base
  | some d => exact nodup_keepFirsts (nodup_keepFirsts base)

/-- No condition is asked twice, as merging keeps the first of equals. This bounds their number by
that of the possible ones. -/
theorem nodup_predicates_query (c : Count) (w : Warehouse) (f : Filter)
    (group : Option Dimension) : (c.query w f group).clauses.predicates.Nodup := by
  have base : (c.definition f).base.predicates.Nodup := by
    cases c with
    | closed | closers => exact List.pairwise_singleton _ _
    | commits | authors | committers | repositories | opened | openers => exact List.nodup_nil
  cases group with
  | none => exact nodup_keepFirsts base
  | some d => exact nodup_keepFirsts (nodup_keepFirsts base)

/-- A query has a condition for every binding, two for what is left out, and one of its own. -/
theorem length_predicates_query_le (c : Count) (w : Warehouse) (f : Filter)
    (group : Option Dimension) :
    (c.query w f group).clauses.predicates.length ≤ f.bindings.length + 3 := by
  have own : (c.definition f).base.predicates.length ≤ 1 := by
    cases c <;> exact Nat.le_of_ble_eq_true rfl
  have listed : (c.query w f group).clauses.predicates
      ⊆ (c.definition f).base.predicates
        ++ (f.bindings.map fun b => b.1.condition w c.source b.2)
        ++ [.notBy f.excludedActors, .notFrom f.excludedOrganizations] := by
    intro p hp
    simp only [List.mem_append, List.mem_map, List.mem_cons, List.not_mem_nil, or_false]
    rcases mem_predicates_query.1 hp with base | ⟨b, hb, rfl⟩ | excluded
    · exact .inl (.inl base)
    · exact .inl (.inr ⟨b, hb, rfl⟩)
    · exact .inr (Filter.eq_of_mem_exclusions excluded)
  have length := (nodup_predicates_query c w f group).length_le_of_subset listed
  simp only [List.length_append, List.length_map, List.length_cons, List.length_nil] at length
  omega

/-- **Only bindings make a query deep.** There are ten links in all, and three conditions beside the
bindings, so that a filter with few bindings is never too deep. -/
theorem reach_query_le (c : Count) (w : Warehouse) (f : Filter) (group : Option Dimension) :
    (c.query w f group).clauses.reach ≤ f.bindings.length + 32 := by
  have links := (nodup_joins_query c w f group).length_le_of_subset fun l _ => l.mem_all
  have conditions := length_predicates_query_le c w f group
  have reach := (c.query w f group).clauses.reach_le_length
  have ten : Link.all.length = 10 := rfl
  omega

end Count

namespace Query

variable {q : Query} {w : Warehouse} {mode : Mode}

/-! ## Items

The rows of a breakdown are one for each item that occurs among the matches. The items are ranked,
or sorted by name, and their numbers are functions of the item, whatever the order. -/

/-- The items of a key among matches, each once. A match without an item is left out. -/
def itemsIn (key : GroupKey) (ms : List Match) : List String :=
  (ms.filterMap key.valueOf).eraseDups

/-- The number of distinct values of an item among matches. A value may be counted in several
items. -/
def itemCount (q : Query) (key : GroupKey) (ms : List Match) (item : String) : Nat :=
  q.counted.count (ms.filter fun m => key.valueOf m == some item)

/-- The rows before they are ordered: every item with its number. -/
theorem itemCounts_eq (q : Query) (key : GroupKey) (ms : List Match) :
    q.itemCounts key ms = (itemsIn key ms).map fun k => (k, q.itemCount key ms k) :=
  rfl

/-- An item is listed if and only if a match belongs to it. -/
theorem mem_itemsIn_iff {key : GroupKey} {ms : List Match} {k : String} :
    k ∈ itemsIn key ms ↔ ∃ m ∈ ms, key.valueOf m = some k := by
  rw [itemsIn, List.mem_eraseDups, List.mem_filterMap]

/-- An item is listed once, however many matches belong to it. -/
theorem nodup_itemsIn (key : GroupKey) (ms : List Match) : (itemsIn key ms).Nodup :=
  nodup_eraseDups _

/-- Items in some order, with their numbers. If the number of each pair is a function of the item,
the pairs are known from the items alone, and it is enough to follow these through a sort. -/
theorem map_fst_eq {α : Type} {l : List (String × α)} {g : String → α}
    (h : ∀ x ∈ l, x.2 = g x.1) : l = (l.map Prod.fst).map fun k => (k, g k) := by
  rw [List.map_map]
  refine (List.map_id l).symm.trans (List.map_congr_left fun x hx => ?_)
  exact Prod.ext rfl (h x hx)

/-- The items of a ranking, in order, as far as the limit goes. -/
def rankedItems (q : Query) (key : GroupKey) (ms : List Match) : List String :=
  (q.ranking key ms).map Prod.fst

/-- The items by ascending name. -/
def sortedItems (q : Query) (key : GroupKey) (ms : List Match) : List String :=
  ((q.itemCounts key ms).mergeSort fun x y => x.1 ≤ y.1).map Prod.fst

variable {key : GroupKey} {ms : List Match}

/-- The number in a row is that of its item. -/
theorem eq_itemCount_of_mem {x : String × Nat} (h : x ∈ q.itemCounts key ms) :
    x.2 = q.itemCount key ms x.1 := by
  rw [itemCounts_eq] at h
  obtain ⟨k, _, rfl⟩ := List.mem_map.1 h
  rfl

/-- The rows are of the items that occur. -/
theorem map_fst_itemCounts : (q.itemCounts key ms).map Prod.fst = itemsIn key ms := by
  rw [itemCounts_eq, List.map_map]
  exact List.map_id _

/-- However rows are sorted, the items are the same. -/
theorem perm_sorted (le : String × Nat → String × Nat → Bool) :
    (((q.itemCounts key ms).mergeSort le).map Prod.fst).Perm (itemsIn key ms) := by
  have := (List.mergeSort_perm (q.itemCounts key ms) le).map Prod.fst
  rwa [map_fst_itemCounts] at this

/-- All items, ranked. This is the ranking without a limit, from which a limit takes the front. -/
def fullRanking (q : Query) (key : GroupKey) (ms : List Match) : List String :=
  ((q.itemCounts key ms).mergeSort rankLe).map Prod.fst

/-- The items of a ranking are the first of all items, as many as the limit allows. -/
theorem rankedItems_eq (q : Query) (key : GroupKey) (ms : List Match) :
    q.rankedItems key ms = q.limit.elim (q.fullRanking key ms) (q.fullRanking key ms).take := by
  unfold rankedItems ranking
  cases q.limit with
  | none => rfl
  | some n => exact List.map_take

/-- In the full ranking no item stands twice. -/
theorem nodup_fullRanking (q : Query) (key : GroupKey) (ms : List Match) :
    (q.fullRanking key ms).Nodup :=
  (perm_sorted rankLe).nodup_iff.2 (nodup_itemsIn key ms)

/-- In the full ranking every item that occurs is found. -/
theorem mem_fullRanking_iff {k : String} :
    k ∈ q.fullRanking key ms ↔ ∃ m ∈ ms, key.valueOf m = some k := by
  rw [← mem_itemsIn_iff]
  exact (perm_sorted rankLe).mem_iff

/-- In a ranking no item stands twice, with a limit or without. -/
theorem nodup_rankedItems (q : Query) (key : GroupKey) (ms : List Match) :
    (q.rankedItems key ms).Nodup := by
  have all := q.nodup_fullRanking key ms
  rw [rankedItems_eq]
  cases q.limit with
  | none => exact all
  | some n => exact (List.take_sublist n _).nodup all

/-- A ranking is its items with their numbers. -/
theorem ranking_eq (q : Query) (key : GroupKey) (ms : List Match) :
    q.ranking key ms = (q.rankedItems key ms).map fun k => (k, q.itemCount key ms k) := by
  refine map_fst_eq fun x hx => eq_itemCount_of_mem ?_
  unfold ranking at hx
  cases h : q.limit with
  | none =>
    rw [h] at hx
    exact (List.mergeSort_perm _ _).mem_iff.1 hx
  | some n =>
    rw [h] at hx
    exact (List.mergeSort_perm _ _).mem_iff.1 (List.mem_of_mem_take hx)

/-- Without a limit, the items of a ranking are those that occur. -/
theorem mem_rankedItems_iff (h : q.limit = none) {k : String} :
    k ∈ q.rankedItems key ms ↔ ∃ m ∈ ms, key.valueOf m = some k := by
  rw [rankedItems_eq, h, ← mem_fullRanking_iff]
  rfl

/-- The items that occur but stand beyond the limit of the ranking. Without a limit there are
none. -/
def cutItems (q : Query) (key : GroupKey) (ms : List Match) : List String :=
  q.limit.elim [] (q.fullRanking key ms).drop

/-- **An item is cut off** exactly when it occurs and is not in the ranking. -/
theorem mem_cutItems_iff {k : String} :
    k ∈ q.cutItems key ms ↔
      (∃ m ∈ ms, key.valueOf m = some k) ∧ k ∉ q.rankedItems key ms := by
  rw [← mem_fullRanking_iff (q := q), rankedItems_eq, cutItems]
  cases q.limit with
  | none =>
    show k ∈ [] ↔ k ∈ q.fullRanking key ms ∧ k ∉ q.fullRanking key ms
    exact ⟨fun h => absurd h List.not_mem_nil, fun h => absurd h.1 h.2⟩
  | some n =>
    show k ∈ (q.fullRanking key ms).drop n ↔
      k ∈ q.fullRanking key ms ∧ k ∉ (q.fullRanking key ms).take n
    have nodup := q.nodup_fullRanking key ms
    rw [← List.take_append_drop n (q.fullRanking key ms)] at nodup
    have apart := (List.nodup_append.1 nodup).2.2
    constructor
    · intro cut
      exact ⟨List.mem_of_mem_drop cut, fun listed => apart k listed k cut rfl⟩
    · rintro ⟨all, unlisted⟩
      rw [← List.take_append_drop n (q.fullRanking key ms)] at all
      exact (List.mem_append.1 all).resolve_left unlisted

/-- Sorted by name, the rows are the sorted items with their numbers. -/
theorem sorted_eq (q : Query) (key : GroupKey) (ms : List Match) :
    (q.itemCounts key ms).mergeSort (fun x y => x.1 ≤ y.1)
      = (q.sortedItems key ms).map fun k => (k, q.itemCount key ms k) :=
  map_fst_eq fun _ hx => eq_itemCount_of_mem ((List.mergeSort_perm _ _).mem_iff.1 hx)

/-- Sorted by name, each item stands once. -/
theorem nodup_sortedItems (q : Query) (key : GroupKey) (ms : List Match) :
    (q.sortedItems key ms).Nodup :=
  (perm_sorted _).nodup_iff.2 (nodup_itemsIn key ms)

/-- Sorted by name, all items are found that occur. -/
theorem mem_sortedItems_iff {k : String} :
    k ∈ q.sortedItems key ms ↔ ∃ m ∈ ms, key.valueOf m = some k := by
  rw [← mem_itemsIn_iff]
  exact (perm_sorted _).mem_iff

/-- The number of an item that does not occur is zero. -/
theorem itemCount_eq_zero {k : String} (h : ¬ ∃ m ∈ ms, key.valueOf m = some k) :
    q.itemCount key ms k = 0 := by
  have empty : (ms.filter fun m => key.valueOf m == some k) = [] :=
    List.filter_eq_nil_iff.2 fun m hm same => h ⟨m, hm, beq_iff_eq.1 same⟩
  rw [itemCount, empty]
  rfl

/-- **The numbers of items add up** to the number of all values, if every match belongs to one of
the items and equal values belong to the same. Without the first condition values are lost, without
the second some are counted in two items. The items may come in any order, and may include such as
do not occur. -/
theorem sum_itemCount {items : List String} (nodup : items.Nodup)
    (all : ∀ m ∈ ms, ∃ k ∈ items, key.valueOf m = some k)
    (apart : ∀ m ∈ ms, ∀ m' ∈ ms, q.counted.valueOf m = q.counted.valueOf m' →
      key.valueOf m = key.valueOf m') :
    (items.map (q.itemCount key ms)).sum = q.counted.count ms := by
  -- a value is counted in the item that one of its matches belongs to
  have part : ∀ k, q.itemCount key ms k = (ms.filterMap q.counted.valueOf).eraseDups.countP
      fun v => ∃ m ∈ ms, q.counted.valueOf m = some v ∧ key.valueOf m = some k := by
    intro k
    rw [itemCount, Counted.count, List.countP_eq_length_filter]
    refine ((List.perm_ext_iff_of_nodup (nodup_eraseDups _)
      ((nodup_eraseDups _).filter _)).2 fun v => ?_).length_eq
    simp only [List.mem_eraseDups, List.mem_filterMap, List.mem_filter, beq_iff_eq,
      decide_eq_true_eq]
    constructor
    · rintro ⟨m, ⟨hm, item⟩, value⟩
      exact ⟨⟨m, hm, value⟩, m, hm, value, item⟩
    · rintro ⟨_, m, hm, value, item⟩
      exact ⟨m, ⟨hm, item⟩, value⟩
  rw [List.map_congr_left fun k _ => part k, sum_countP_of_apart nodup, Counted.count,
    List.countP_eq_length]
  · intro v hv
    obtain ⟨m, hm, value⟩ := List.mem_filterMap.1 (List.mem_eraseDups.1 hv)
    obtain ⟨k, hk, item⟩ := all m hm
    exact List.any_eq_true.2 ⟨k, hk, decide_eq_true ⟨m, hm, value, item⟩⟩
  · intro v _ k _ k' _ here there
    obtain ⟨m, hm, value, item⟩ := of_decide_eq_true here
    obtain ⟨m', hm', value', item'⟩ := of_decide_eq_true there
    have same := apart m hm m' hm' (value.trans value'.symm)
    rw [item, item'] at same
    exact Option.some.inj same

end Query

end ActivityMetrics
