import ActivityMetrics.Proofs.Metric.DrillDown
import ActivityMetrics.Proofs.Metric.Rows
import ActivityMetrics.Proofs.Text.Bytes

/-!
# Ranked lists

A breakdown ranks items by descending value and, where values are equal, by their bytes. A limit
takes items from the front of this ranking and changes nothing in it, so that a ranked list is the
top of the breakdown without a limit (`Count.list_is_top`): whatever is left out comes after
whatever is listed.

The bytes are there for ties. Without them two items with the same value could stand in either
order, and a limit between them would list the one or the other. With them any two items are
ordered, the ranking is determined by the values alone, and a list cannot depend on how the database
came by its rows. The order of the bytes of texts is that of their characters, which is what the
items are compared by here (`Text.lt_iff_bytes_lt`).

The limit is one more mark in the statement. So the database may refuse a ranked list where it
accepts the breakdown without a limit (`Count.breakdown_accepted_list_refused`).
-/

namespace ActivityMetrics

/-! ## Rankings

What it is for some items to be the top of others is said for any values, without a query. -/

/-- An item comes before another in a ranking: its value is greater, or the values are equal and its
bytes are less. Of two different items exactly one comes before the other. -/
def Outranks (value : String → Nat) (k k' : String) : Prop :=
  value k' < value k ∨ value k = value k' ∧ Text.bytes k < Text.bytes k'

/-- Some items are the top of a ranking. The first items of a list are its top only if the list is
ranked, and so the order of the whole list is part of it. The last field follows from the others,
and is what a reader of the list relies on. -/
structure TopOf (value : String → Nat) (all : List String) (n : Nat) (top : List String) :
    Prop where
  /-- No item is repeated in the ranking. -/
  nodup : all.Nodup
  /-- Every item comes before those after it. -/
  ranked : all.Pairwise (Outranks value)
  /-- The items that are listed are the first of all. -/
  first : top = all.take n
  /-- There are as many items as the limit says, or all if there are fewer. -/
  length : top.length = min n all.length
  /-- Whatever is left out comes after whatever is taken. -/
  best : ∀ k ∈ top, ∀ k' ∈ all, k' ∉ top → Outranks value k k'

/-- The first items of a ranked list are its top. An item that is not among them stands behind them
all. -/
theorem topOf_take {value : String → Nat} {all : List String} (nodup : all.Nodup)
    (ranked : all.Pairwise (Outranks value)) (n : Nat) : TopOf value all n (all.take n) where
  nodup := nodup
  ranked := ranked
  first := rfl
  length := List.length_take
  best k listed k' there unlisted := by
    rw [← List.take_append_drop n all] at ranked there
    exact (List.pairwise_append.1 ranked).2.2 k listed k'
      ((List.mem_append.1 there).resolve_left unlisted)

/-- **Items are ranked by their numbers**, and by their bytes where numbers are equal. Sorted means
no more than that each item is not after the next; that it is before needs that no item is twice in
the list. -/
theorem Query.pairwise_fullRanking (q : Query) (key : GroupKey) (ms : List Match) :
    (q.fullRanking key ms).Pairwise (Outranks (q.itemCount key ms)) := by
  have sorted := List.pairwise_mergeSort rankLe_trans rankLe_total (q.itemCounts key ms)
  have distinct := q.nodup_fullRanking key ms
  rw [fullRanking, List.Nodup, List.pairwise_map] at distinct
  rw [fullRanking, List.pairwise_map]
  refine (sorted.and distinct).imp_of_mem fun {a b} ha hb ⟨le, other⟩ => ?_
  have number : ∀ {x}, x ∈ (q.itemCounts key ms).mergeSort rankLe → q.itemCount key ms x.1 = x.2 :=
    fun hx => (eq_itemCount_of_mem (List.mem_mergeSort.1 hx)).symm
  rw [Outranks, number ha, number hb, ← Text.lt_iff_bytes_lt]
  refine (rankLe_iff.1 le).imp_right fun ⟨same, before⟩ => ⟨same, ?_⟩
  exact String.not_le.1 fun after => other (String.le_antisymm before after)

namespace Count

variable {c : Count} {w : Warehouse} {f : Filter} {d : Dimension} {key : GroupKey}

/-! ## Breakdowns with a limit

A breakdown has a limit of its own as a parameter, since a list has one even if its filter has
none. -/

/-- All items of a dimension, ranked. The limit of the filter plays no part. -/
def ranked (c : Count) (w : Warehouse) (f : Filter) (d : Dimension) (key : GroupKey) :
    List String :=
  (c.query w f (some d)).fullRanking key ((c.query w f (some d)).matchesIn w)

/-- The items that are ranked are those with something to count. -/
theorem mem_ranked_iff {v : String} : v ∈ c.ranked w f d key ↔ c.itemTotal w f d key v ≠ 0 :=
  Query.mem_fullRanking_iff.trans itemTotal_ne_zero_iff.symm

/-- An answer lists items with their values, in two fields of the same length. The values are given
by a function of the item, so that two answers can be compared although they list their items in
different orders. -/
structure Shows (c : Count) (d : Dimension) (value : String → Nat) (items : List String)
    (a : Answer) : Prop where
  /-- The items are listed. -/
  keys : a.list? d.name = some (items.map .text)
  /-- Their values are listed with them. -/
  values : a.list? c.id = some (items.map fun k => .int (value k))

/-- **A limit takes items from the front of the ranking.** The ranking is that of the breakdown
without a limit, and the values are those that it has there. -/
theorem exists_breakdown_limited {limit : Option Nat} (hk : d.key? c.source = some key)
    (h : (c.breakdownQuery w f d limit).Admitted .aggregate) :
    ∃ a, c.breakdown w f d limit = .ok a ∧ c.Shows d (c.itemTotal w f d key)
      (limit.elim (c.ranked w f d key) (c.ranked w f d key).take) a := by
  have items := Query.rankedItems_eq (c.breakdownQuery w f d limit) key
    ((c.breakdownQuery w f d limit).matchesIn w)
  refine ⟨_, breakdown_eq rfl hk h, ⟨?_, ?_⟩⟩
  · apply Answer.list?_of_get?
    rw [Answer.get?_insert_self, items]
    rfl
  · apply Answer.list?_of_get?
    rw [Answer.get?_insert_of_ne (c.name_ne_id d).symm, Answer.get?_insert_self, items]
    rfl

/-- Without a limit there is a mark less. -/
theorem admitted_of_limited {limit : Option Nat}
    (h : (c.breakdownQuery w f d limit).Admitted .aggregate) :
    (c.breakdownQuery w f d none).Admitted .aggregate := by
  obtain ⟨marks, reach⟩ := h
  refine ⟨Nat.le_trans ?_ marks, reach⟩
  exact Nat.add_le_add_left (Nat.zero_le _) _

/-- The limit of a filter does not matter for a breakdown with a limit of its own. -/
theorem breakdown_withLimit (c : Count) (w : Warehouse) (f : Filter) (d : Dimension)
    (own limit : Option Nat) :
    c.breakdown w { f with limit := own } d limit = c.breakdown w f d limit := by
  cases c <;> rfl

/-! ## The theorem -/

/-- **A ranked list is the top of the breakdown without a limit**, as many items of it as the filter
allows, or ten. It fails in the database if its statement is not accepted. A breakdown with a limit
is answered as the list.

The breakdown without a limit is asked for on its own, and the theorem relates the two answers. That
it is accepted does not have to be assumed, as it has a mark less. All that is said of the values is
that both answers show the same: what they are is the matter of other theorems, and for the order it
is enough that there are some. -/
theorem list_is_top (c : Count) (w : Warehouse) {f : Filter} {d : Dimension} (hd : d ≠ .project)
    (dimension : f.group?.getD c.listDimension = d) :
    ((c.breakdownQuery w f d (some (f.limit.getD defaultListLimit))).Admitted .aggregate →
      ∃ a b top all value, c.list w f = .ok a ∧ c.Shows d value top a ∧
        c.breakdown w f d none = .ok b ∧ c.Shows d value all b ∧
        TopOf value all (f.limit.getD defaultListLimit) top) ∧
      (¬ (c.breakdownQuery w f d (some (f.limit.getD defaultListLimit))).Admitted .aggregate →
        ∃ fault, c.list w f = .error (.database fault)) ∧
      ∀ n, f.group? = some d → f.limit = some n → c.aggregate w f = c.list w f ∧
        c.aggregate w { f with limit := none } = c.breakdown w f d none := by
  obtain ⟨key, hk⟩ := Dimension.exists_key? hd c.source
  rw [list, dimension]
  refine ⟨fun h => ?_, breakdown_refused hk, fun n grouped limited => ⟨?_, ?_⟩⟩
  · obtain ⟨a, answered, shows⟩ := exists_breakdown_limited hk h
    obtain ⟨b, unlimited, showsAll⟩ := exists_breakdown_limited hk (admitted_of_limited h)
    exact ⟨a, b, _, _, _, answered, shows, unlimited, showsAll,
      topOf_take (Query.nodup_fullRanking _ key _) (Query.pairwise_fullRanking _ key _) _⟩
  · rw [aggregate, grouped, limited]
    rfl
  · have same : ({ f with limit := none } : Filter).group? = some d := grouped
    rw [aggregate, same]
    exact breakdown_withLimit c w f d none none

/-- Both companies have one author, and their names decide. -/
theorem ranked_newYear :
    authors.ranked .newYear (.newYear (.every .company)) .company (.group .organization)
      = ["club", "guild"] := by
  cbv

/-- Of two companies with an author each, the one with the lesser name is listed. -/
theorem list_is_top_newYear :
    ∃ a top all value,
      authors.list .newYear { Filter.newYear (.every .company) with limit := some 1 } = .ok a ∧
      a.list? "company" = some [.text "club"] ∧ authors.Shows .company value top a ∧
      TopOf value all 1 top := by
  have accepted : (authors.breakdownQuery .newYear
      { Filter.newYear (.every .company) with limit := some 1 } .company (some 1)).Admitted
      .aggregate := by decide
  obtain ⟨a, _, top, all, value, answered, shows, _, _, best⟩ :=
    (authors.list_is_top .newYear (by decide) rfl).1 accepted
  refine ⟨a, top, all, value, answered, ?_, shows, best⟩
  have key : Dimension.company.key? authors.source = some (.group .organization) := rfl
  obtain ⟨a', same, keys, _⟩ := exists_breakdown_limited key accepted
  obtain rfl : a = a' := Except.ok.inj (answered.symm.trans same)
  exact keys.trans (congrArg (fun items => some ((items.take 1).map Datum.text)) ranked_newYear)

/-- With a limit there is a mark more. -/
theorem not_admitted_closedBy {more : Nat} (limit : Nat) (h : Limits.marks ≤ more + 4) :
    ¬ (closed.breakdownQuery .closedIssue (.closedBy more) .repository (some limit)).Admitted
      .aggregate := by
  rintro ⟨marks, _⟩
  have unlimited := marksOf_closedBy more
  have limited : Limits.marksOf .changes
      (closed.query .closedIssue (.closedBy more) (some .repository)).clauses true
        ≤ Limits.marks := marks
  rw [Limits.marksOf, Bool.toNat_false] at unlimited
  rw [Limits.marksOf, Bool.toNat_true] at limited
  omega

/-- **A ranked list may be refused where the breakdown is not.** The breakdown has as many marks as
there may be, and the limit is one more. -/
theorem breakdown_accepted_list_refused :
    Warehouse.closedIssue.Reachable ∧
    (∃ a, closed.aggregate .closedIssue (.closedBy 32762) = .ok a ∧
      closed.Shows .repository (fun _ => 1) ["t"] a) ∧
    ∃ fault, closed.list .closedIssue (.closedBy 32762) = .error (.database fault) := by
  have key : Dimension.repository.key? closed.source = some (.repository .its) := rfl
  have accepted : (closed.query .closedIssue (.closedBy 32762) (some .repository)).Admitted
      .aggregate := ⟨Nat.le_of_eq (marksOf_closedBy 32762), by decide⟩
  obtain ⟨a, answered, keys, values⟩ := exists_breakdown key rfl accepted
  rw [listed_closedBy] at keys values
  rw [List.map_singleton, itemTotal_closedBy] at values
  exact ⟨⟨_, rfl⟩, ⟨a, answered, keys, values⟩,
    breakdown_refused key (not_admitted_closedBy 10 (by decide))⟩

end Count

end ActivityMetrics
