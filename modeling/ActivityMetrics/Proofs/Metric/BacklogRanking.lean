import ActivityMetrics.Proofs.Decimal.Order
import ActivityMetrics.Proofs.Metric.Conjunction
import ActivityMetrics.Proofs.Metric.Ranking

/-!
# The ranking by index

The items of the index are put in one order before a limit is applied: those that have issues opened
as they are ranked by these, and behind them those that have issues closed only. Then they are
sorted by descending index, with the undefined ones last, and as the sort keeps the order of equals,
items of the same index stay in the order they were in. A ranked list is the front of this ranking,
and all its lists are of the same items (`Backlog.list_is_stable_top`).

That a list is sorted says little about ties, and ties are what a reader of the list meets: an index
of 100 is that of every item whose issues were all closed. The order of equals is decided in two
places, neither of which is the comparison by index. The first is the order in which the items of
the two breakdowns are united (`Joined`), the second is that the sort is stable. So the module
begins with what a stable sort by a rank does to a list that has an order of its own
(`pairwise_mergeSort_of_rank`), and the rest is to find the rank and the order.

The limit has to come last for this. Were it applied to the two breakdowns, an item with few issues
opened and many closed would be lost before its index is known, and two limits might give lists that
are not fronts of one another. The breakdowns are asked for without a limit, and only the sorted
items are cut.

Indexes are floating-point numbers. Their comparison is an order as long as all of them are numbers:
with a NaN among them a sort promises no order. They are numbers as long as no count is
too large to be read as a finite number, which takes more issues than there are numbers for rows.

The limit does not appear in the statements of the index. They are those of the two breakdowns
without a limit, and the index has no list if the database refuses one of them
(`Backlog.breakdown_accepted_index_refused`).
-/

namespace ActivityMetrics

/-! ## Sorting by rank

What a stable sort does is said here for any rank in a linear order. The index will be one of its
ranks, with a place for the undefined one below all numbers. -/

section Rank

variable {α ι : Type} [LinearOrder ι] (rank : α → ι)

/-- The comparison by rank is transitive, in the form in which a sort asks for it: as a function
with truth values. -/
theorem rank_trans (a b c : α) (first : decide (rank b ≤ rank a) = true)
    (second : decide (rank c ≤ rank b) = true) : decide (rank c ≤ rank a) = true :=
  decide_eq_true ((of_decide_eq_true second).trans (of_decide_eq_true first))

/-- The comparison by rank is total, again in the form in which a sort asks for it. -/
theorem rank_total (a b : α) : (decide (rank b ≤ rank a) || decide (rank a ≤ rank b)) = true := by
  rw [Bool.or_eq_true, decide_eq_true_iff, decide_eq_true_iff]
  exact le_total _ _

/-- **A sort keeps the order of elements of the same rank.** These are sorted already, and a sorted
part of a list is still a part of the list when it is sorted. It cannot have become shorter, since
sorting loses no element. -/
theorem filter_mergeSort_of_rank (l : List α) (k : ι) :
    (l.mergeSort fun a b => decide (rank b ≤ rank a)).filter (rank · = k)
      = l.filter (rank · = k) := by
  have level : (l.filter (rank · = k)).Pairwise fun a b => decide (rank b ≤ rank a) := by
    refine List.pairwise_of_forall_mem_list fun a ha b hb => ?_
    have first : rank a = k := of_decide_eq_true (List.mem_filter.1 ha).2
    have second : rank b = k := of_decide_eq_true (List.mem_filter.1 hb).2
    exact decide_eq_true (second.trans first.symm).le
  -- the elements of rank `k` come in their old order within the sorted list, where they are all
  -- there are of this rank
  have kept := (List.sublist_mergeSort (rank_trans rank) (rank_total rank) level
    List.filter_sublist).filter fun a => decide (rank a = k)
  rw [List.filter_filter] at kept
  simp only [Bool.and_self] at kept
  exact (kept.eq_of_length (((List.mergeSort_perm l _).filter _).length_eq).symm).symm

/-- **In a sorted list an element has a greater rank than those after it, or the same one** and it
stood before them. So two orders are in the result at once: that of the ranks and, within a rank,
the one that the list had. -/
theorem pairwise_mergeSort_of_rank {r : α → α → Prop} {l : List α} (h : l.Pairwise r) :
    (l.mergeSort fun a b => decide (rank b ≤ rank a)).Pairwise fun a b =>
      rank b < rank a ∨ rank a = rank b ∧ r a b := by
  have sorted := List.pairwise_mergeSort (rank_trans rank) (rank_total rank) l
  rw [List.pairwise_iff_forall_sublist] at sorted ⊢
  intro a b pair
  refine (of_decide_eq_true (sorted pair)).lt_or_eq.imp_right fun same => ⟨same.symm, ?_⟩
  -- a pair of the same rank is left of the sorted list when only its rank is kept, and so it is
  -- left of the list itself
  have level := pair.filter fun x => decide (rank x = rank a)
  have both : [a, b].filter (fun x => decide (rank x = rank a)) = [a, b] :=
    List.filter_eq_self.2 (by simp [same])
  rw [filter_mergeSort_of_rank, both] at level
  exact List.pairwise_iff_forall_sublist.1 h (level.trans List.filter_sublist)

end Rank

namespace Backlog

/-! ## The order of indexes

Indexes are compared as data, of which some are undefined. This section gives each index a place in
a linear order such that comparing indexes is comparing places. -/

/-- An index is undefined or a number. The third possibility, a float that is no number, is the one
that would make the comparison useless: NaN is neither less than another index nor equal to it. -/
def Comparable (d : Datum) : Prop :=
  d = .null ∨ ∃ x, Decimal.IsNumber x ∧ d = .float x

/-- The index of two counts is undefined or a number, unless too much was opened. Nothing opened
leaves it undefined, and a count of less than 1000 binary digits is a finite number that can be
divided by. -/
theorem comparable_index (c : Nat) {o : Nat} (bits : o.log2 < 1000) :
    Comparable (index (.int c) (.int o)) := by
  by_cases zero : o = 0
  · exact .inl ((index_eq_null_iff c o).2 zero)
  · refine .inr ⟨_, Decimal.isNumber_percentage c zero bits, ?_⟩
    show Datum.ofNumber? ((ratio (Float.ofInt c) (Float.ofInt o)).map (· * 100)) = _
    rw [ratio, if_neg fun same => zero ((Decimal.ofInt_beq_zero_iff o).1 same)]
    rfl

/-- The place of an index among the others. An undefined one has the last. The place of a number is
made of whole numbers, so that no later proof has to compare floats. -/
def standing (d : Datum) : WithBot (ℤ ×ₗ ℤ ×ₗ ℤ) :=
  d.number?.elim ⊥ fun x => Decimal.place x.toModel.unpack

/-- For two numbers, not to be less is to have a place that is at least the other's. -/
theorem standing_float_le_iff {x y : Float} (hx : Decimal.IsNumber x) (hy : Decimal.IsNumber y) :
    standing (.float y) ≤ standing (.float x) ↔ ¬ x < y := by
  rw [Decimal.lt_iff_place_lt hx hy, not_lt]
  exact WithBot.coe_le_coe

/-- **Indexes are compared by their places.** The comparison treats the undefined ones by cases of
its own, and each of its cases is what the least element of the order gives. -/
theorem indexLe_eq {a b : Datum} (ha : Comparable a) (hb : Comparable b) :
    indexLe a b = decide (standing b ≤ standing a) := by
  rw [Bool.eq_iff_iff, decide_eq_true_iff]
  rcases ha with rfl | ⟨x, hx, rfl⟩ <;> rcases hb with rfl | ⟨y, hy, rfl⟩
  · exact iff_of_true rfl le_rfl
  · exact iff_of_false Bool.false_ne_true (WithBot.not_coe_le_bot _)
  · exact iff_of_true rfl bot_le
  · rw [standing_float_le_iff hx hy]
    show (!decide (x < y)) = true ↔ _
    rw [Bool.not_eq_true', decide_eq_false_iff_not]

/-! ## The order of items

What comes before what in the ranking is spelled out by cases, without a sort and without places,
since this is what a reader of a list can check. -/

/-- The index of an item, from the numbers of its issues that were closed and opened. It is
undefined if none was opened. -/
def itemIndex (closed opened : String → Nat) (k : String) : Datum :=
  index (.int (closed k)) (.int (opened k))

/-- An item comes before another in the ranking by index. The four cases exclude each other. In two
of them the indexes say nothing and a number of issues decides, which is another number in each:
items of the same index have issues opened and are ranked by these, and those of an undefined index
have none. -/
inductive Precedes (closed opened : String → Nat) (k k' : String) : Prop where
  /-- Its index is greater. -/
  | greater {x y : Float} (h : itemIndex closed opened k = .float x)
    (h' : itemIndex closed opened k' = .float y) (greater : y < x)
  /-- The indexes are equal, and the item comes before the other by issues opened. -/
  | equal {x y : Float} (h : itemIndex closed opened k = .float x)
    (h' : itemIndex closed opened k' = .float y) (equal : (x == y) = true)
    (before : Outranks opened k k')
  /-- Only its index is defined. -/
  | defined {x : Float} (h : itemIndex closed opened k = .float x)
    (h' : itemIndex closed opened k' = .null)
  /-- Both indexes are undefined, and the item comes before the other by issues closed. -/
  | undefined (h : itemIndex closed opened k = .null) (h' : itemIndex closed opened k' = .null)
    (before : Outranks closed k k')

/-- The order in which items are united. Nothing is said of an item with issues opened beside one
without, although the first comes before: their indexes differ, and the sort will decide about
them. -/
structure Joined (closed opened : String → Nat) (k k' : String) : Prop where
  /-- Items with issues opened are ordered by these. -/
  front : opened k ≠ 0 → opened k' ≠ 0 → Outranks opened k k'
  /-- Items without issues opened are ordered by issues closed. -/
  behind : opened k = 0 → opened k' = 0 → Outranks closed k k'

variable {closed opened : String → Nat}

/-- An item whose index is a number has issues opened. -/
theorem opened_ne_zero_of_float {k : String} {x : Float}
    (h : itemIndex closed opened k = .float x) : opened k ≠ 0 := by
  intro zero
  rw [itemIndex, (index_eq_null_iff _ _).2 zero] at h
  cases h

/-- Items are sorted by index, and items of the same index stay as they were united. A place below
is a smaller index or an undefined one, and the same place leaves the order of uniting, of which the
half counts that belongs to the index. -/
theorem precedes_of_standing {k k' : String} (hk : Comparable (itemIndex closed opened k))
    (hk' : Comparable (itemIndex closed opened k'))
    (sorted : standing (itemIndex closed opened k') < standing (itemIndex closed opened k) ∨
      standing (itemIndex closed opened k) = standing (itemIndex closed opened k') ∧
        Joined closed opened k k') : Precedes closed opened k k' := by
  rcases hk with null | ⟨x, hx, float⟩ <;> rcases hk' with null' | ⟨y, hy, float'⟩
  · -- both undefined: nothing is below the least place, and so the order of uniting decides
    rw [null, null'] at sorted
    obtain ⟨_, joined⟩ := sorted.resolve_left (lt_irrefl _)
    exact .undefined null null'
      (joined.behind ((index_eq_null_iff _ _).1 null) ((index_eq_null_iff _ _).1 null'))
  · -- an undefined index is never sorted before a number
    rw [null, float'] at sorted
    rcases sorted with less | ⟨same, _⟩
    · exact absurd less not_lt_bot
    · exact absurd same WithBot.bot_ne_coe
  · exact .defined float null'
  · rw [float, float'] at sorted
    rcases sorted with less | ⟨same, joined⟩
    · exact .greater float float' ((Decimal.lt_iff_place_lt hy hx).2 (WithBot.coe_lt_coe.1 less))
    · exact .equal float float' ((Decimal.beq_iff_place_eq hx hy).2 (WithBot.coe_injective same))
        (joined.front (opened_ne_zero_of_float float) (opened_ne_zero_of_float float'))

/-- **Items are sorted by index**, and those of the same index stay as they were united. The order
of uniting is a hypothesis here: it is not a property of the sort. -/
theorem pairwise_byIndex {items : List String} (comparable : ∀ k, Comparable
    (itemIndex closed opened k)) (joined : items.Pairwise (Joined closed opened)) :
    (byIndex items closed opened).Pairwise (Precedes closed opened) := by
  have same : byIndex items closed opened = items.mergeSort fun k k' =>
      decide (standing (itemIndex closed opened k') ≤ standing (itemIndex closed opened k)) :=
    congrArg (fun le => items.mergeSort le)
      (funext₂ fun k k' => indexLe_eq (comparable k) (comparable k'))
  rw [same]
  exact (pairwise_mergeSort_of_rank (fun k => standing (itemIndex closed opened k)) joined).imp
    (precedes_of_standing (comparable _) (comparable _))

/-! ## Items of two breakdowns

The items come from the breakdowns of issues opened and issues closed, each of which ranks its own.
Their union lists the first breakdown as it is, and of the second what the first does not have. -/

variable {w : Warehouse} {f : Filter} {d : Dimension} {key : GroupKey}

/-- Items with issues opened are united first, as they are ranked by these. The rest are those of
the second breakdown that are not in the first, in the order of the second: they have no issues
opened, and are ranked by issues closed. -/
theorem pairwise_united : (united w f d key).Pairwise
    (Joined (Count.closed.itemTotal w f d key) (Count.opened.itemTotal w f d key)) := by
  obtain ⟨rest, same, sub, new⟩ := exists_keepFirsts_eq_append (Count.opened.ranked w f d key)
    (Count.closed.ranked w f d key)
  have some : ∀ k ∈ Count.opened.ranked w f d key, Count.opened.itemTotal w f d key k ≠ 0 :=
    fun _ => Count.mem_ranked_iff.1
  have none : ∀ k ∈ rest, Count.opened.itemTotal w f d key k = 0 :=
    fun k hk => not_not.1 fun h => new k hk (Count.mem_ranked_iff.2 h)
  rw [united, same]
  -- within the first part, within the second part, and across: there one item has issues opened and
  -- the other none, and `Joined` asks nothing
  refine List.pairwise_append.2 ⟨?_, ?_, fun k hk k' hk' => ?_⟩
  · exact (Query.pairwise_fullRanking _ _ _).imp_of_mem fun hk _ before =>
      ⟨fun _ _ => before, fun zero => absurd zero (some _ hk)⟩
  · exact ((Query.pairwise_fullRanking _ _ _).sublist sub).imp_of_mem fun hk _ before =>
      ⟨fun nonzero => absurd (none _ hk) nonzero, fun _ _ => before⟩
  · exact ⟨fun _ nonzero => absurd (none k' hk') nonzero, fun zero => absurd zero (some k hk)⟩

/-- No more issues are opened for an item than there are. The statement of a breakdown joins several
tables and may match an issue more than once, but it counts the different numbers of issues. -/
theorem opened_itemTotal_le (v : String) :
    Count.opened.itemTotal w f d key v ≤ w.issues.length := by
  rw [← List.length_map (f := fun i : Issue => MatchValue.number i.id)]
  refine (nodup_eraseDups _).length_le_of_subset fun value hv => ?_
  obtain ⟨m, hm, counted⟩ := List.mem_filterMap.1 (List.mem_eraseDups.1 hv)
  obtain ⟨⟨known, _⟩, _⟩ := (Clauses.mem_matchesIn_iff (Count.opened.chain_query w f (some d))).1
    (List.mem_filter.1 hm).1
  obtain ⟨i, hi, record⟩ := List.mem_map.1 known
  refine List.mem_map.2 ⟨i, hi, ?_⟩
  have same : Counted.issue.valueOf m = some value := counted
  unfold Counted.valueOf at same
  rw [← record] at same
  exact Option.some.inj same

/-- **The items of the index are ranked by it**, where there are no more issues than numbers for
rows. This bound is far below the one at which a count is no finite number any more; it is the one
that a database keeps by itself, as every row has a number of 64 bits. -/
theorem pairwise_ranking (few : w.issues.length ≤ 2 ^ 64) : (ranking w f d key).Pairwise
    (Precedes (Count.closed.itemTotal w f d key) (Count.opened.itemTotal w f d key)) := by
  refine pairwise_byIndex (fun k => comparable_index _ ?_) pairwise_united
  by_cases zero : Count.opened.itemTotal w f d key k = 0
  · rw [zero]
    decide
  · refine (Nat.log2_lt zero).2 ?_
    calc Count.opened.itemTotal w f d key k ≤ w.issues.length := opened_itemTotal_le k
      _ ≤ 2 ^ 64 := few
      _ < 2 ^ 1000 := Nat.pow_lt_pow_right (by decide) (by decide)

/-! ## The theorem

The theorem speaks of the two breakdowns by what they answer, so that the numbers by which items are
ranked are those that a client can ask for. -/

/-- The numbers that a breakdown without a limit lists, and zero for other items. The breakdown
answers, it shows these numbers for its items, and its items are all that have one other than
zero. -/
def Numbers (c : Count) (w : Warehouse) (f : Filter) (d : Dimension) (value : String → Nat) :
    Prop :=
  ∃ a items, c.breakdown w f d none = .ok a ∧ c.Shows d value items a ∧
    ∀ v, v ∈ items ↔ value v ≠ 0

/-- The totals by item are the numbers of a breakdown that is accepted. -/
theorem numbers_itemTotal {c : Count} (hk : d.key? c.source = some key)
    (h : (c.breakdownQuery w f d none).Admitted .aggregate) :
    Numbers c w f d (c.itemTotal w f d key) := by
  obtain ⟨a, answered, shows⟩ := Count.exists_breakdown_limited hk h
  exact ⟨a, _, answered, shows, fun _ => Count.mem_ranked_iff⟩

/-- Items are ranked by index. The order would be said of a shorter list as well, and the first two
fields say that it is the order of all items, each of them once. -/
structure RankedByIndex (w : Warehouse) (closed opened : String → Nat) (all : List String) :
    Prop where
  /-- No item is repeated. -/
  nodup : all.Nodup
  /-- There are all items with issues closed or opened. -/
  mem : ∀ v, v ∈ all ↔ closed v ≠ 0 ∨ opened v ≠ 0
  /-- Every item comes before those after it, if there are no more issues than numbers of 64 bits
  for their rows. -/
  ranked : w.issues.length ≤ 2 ^ 64 → all.Pairwise (Precedes closed opened)

/-- An answer lists the front of a ranking: the first items, as many as the limit allows, with their
own entries. An entry is made of the numbers of its item alone, so that what is cut off behind does
not change what is listed. -/
def ListsFront (d : Dimension) (closed opened : String → Nat) (all : List String)
    (limit : Option Nat) (a : Answer) : Prop :=
  ∃ top, top <+: all ∧ top.length = limit.elim all.length (min · all.length) ∧
    Composes top (fun name v => entry (.int (closed v)) (.int (opened v)) name) d.name a

/-- The index lists the front of the ranking, for every limit that is given to it. With the limit as
a parameter this serves the list, which has a limit of its own, and the breakdown alike. -/
theorem exists_breakdown_listsFront (hk : d.key? .its = some key) (h : BreakdownAccepted w f d)
    (limit : Option Nat) : ∃ a, breakdown w f d limit = .ok a ∧
      ListsFront d (Count.closed.itemTotal w f d key) (Count.opened.itemTotal w f d key)
        (ranking w f d key) limit a := by
  obtain ⟨a, answered, composes⟩ := exists_breakdown_composes hk h limit
  refine ⟨a, answered, _, ?_, ?_, composes⟩
  · cases limit with
    | none => exact List.prefix_refl _
    | some n => exact List.take_prefix _ _
  · cases limit with
    | none => rfl
    | some n => exact List.length_take

/-- **A list by index is the front of one ranking of all items**, as far as the filter allows or ten
items long, whatever the limit. So is a breakdown with a limit of its own. Both fail in the database
if one of the two breakdowns is not accepted.

The ranking is found before the limits are: one ranking serves all of them, and so the list for a
smaller limit is the front of the list for a larger one. A statement of the kind that every list is
sorted would not give this, as of several items with the same index a short list might show one and
a longer list begin with another. Here the ranking leaves no choice among these: `RankedByIndex`
orders any two items, by their index first and then by the order in which they were united, which
the stable sort keeps.

The numbers by which items are ranked are those of the two breakdowns. They are named by what these
breakdowns answer and not by a formula, so that the theorem relates answers to answers. That the
items are all in order depends on indexes that are numbers; this is a field of `RankedByIndex` with
its own condition, while which items there are and that lists are fronts does not depend on it. -/
theorem list_is_stable_top (w : Warehouse) {f : Filter} {d : Dimension} (hd : d ≠ .project)
    (dimension : f.group?.getD .repository = d) :
    (BreakdownAccepted w f d → ∃ closed opened all, Numbers .closed w f d closed ∧
      Numbers .opened w f d opened ∧ RankedByIndex w closed opened all ∧
      ∀ limit : Option Nat,
        (∃ a, list w { f with limit } = .ok a ∧
          ListsFront d closed opened all (some (limit.getD defaultListLimit)) a) ∧
        (f.group? = some d → ∃ a, aggregate w { f with limit } = .ok a ∧
          ListsFront d closed opened all limit a)) ∧
      (¬ BreakdownAccepted w f d → ∀ limit : Option Nat,
        (∃ fault, list w { f with limit } = .error (.database fault)) ∧
        (f.group? = some d →
          ∃ fault, aggregate w { f with limit } = .error (.database fault))) := by
  obtain ⟨key, hk⟩ := Dimension.exists_key? hd .its
  -- the answers are breakdowns, in which only the limit that is given to them matters
  have own : ∀ limit n, breakdown w { f with limit } d n = breakdown w f d n := fun limit n => rfl
  have listed : ∀ limit : Option Nat, list w { f with limit }
      = breakdown w f d (some (limit.getD defaultListLimit)) := by
    intro limit
    rw [list, show ({ f with limit } : Filter).group? = f.group? from rfl, dimension]
    exact own limit _
  have grouped : ∀ limit : Option Nat, f.group? = some d →
      aggregate w { f with limit } = breakdown w f d limit := by
    intro limit by_item
    have same : ({ f with limit } : Filter).group? = some d := by_item
    rw [aggregate, same]
    exact own limit _
  refine ⟨fun h => ⟨_, _, ranking w f d key, numbers_itemTotal hk h.1, numbers_itemTotal hk h.2,
    ⟨nodup_ranking, fun _ => mem_ranking_iff, pairwise_ranking⟩, fun limit => ⟨?_, ?_⟩⟩,
    fun h limit => ⟨?_, ?_⟩⟩
  · rw [listed]
    exact exists_breakdown_listsFront hk h _
  · intro by_item
    rw [grouped limit by_item]
    exact exists_breakdown_listsFront hk h _
  · rw [listed]
    exact breakdown_refused hk h _
  · intro by_item
    rw [grouped limit by_item]
    exact breakdown_refused hk h _

/-- Of two trackers, the one with an opened issue is united first. -/
theorem united_twoTrackers :
    united .twoTrackers (.january (.every .repository)) .repository (.repository .its)
      = ["u", "t"] := by
  cbv

/-- A tracker with closed issues only comes behind one with an opened issue. -/
theorem ranking_twoTrackers :
    ranking .twoTrackers (.january (.every .repository)) .repository (.repository .its)
      = ["u", "t"] := by
  have unopened : Count.opened.itemTotal .twoTrackers (.january (.every .repository)) .repository
      (.repository .its) "t" = 0 := by cbv
  rw [ranking, united_twoTrackers, byIndex]
  refine List.mergeSort_of_pairwise (List.pairwise_pair.2 ?_)
  rw [(index_eq_null_iff _ _).2 unopened]
  rfl

/-- Of a tracker with closed issues only and one with opened issues only, the second is listed,
whose index is zero and not undefined. -/
theorem list_is_stable_top_twoTrackers :
    ∃ a closed opened all,
      list .twoTrackers { Filter.january (.every .repository) with limit := some 1 } = .ok a ∧
      a.list? "repository" = some [.text "u"] ∧
      RankedByIndex .twoTrackers closed opened all ∧
      ListsFront .repository closed opened all (some 1) a := by
  have key : Dimension.repository.key? .its = some (.repository .its) := rfl
  have accepted : BreakdownAccepted .twoTrackers (.january (.every .repository)) .repository :=
    ⟨by decide, by decide⟩
  obtain ⟨closed, opened, all, _, _, ranked, answers⟩ :=
    (list_is_stable_top .twoTrackers (f := .january (.every .repository)) (by decide) rfl).1
      accepted
  obtain ⟨⟨a, answered, front⟩, _⟩ := answers (some 1)
  refine ⟨a, closed, opened, all, answered, ?_, ranked, front⟩
  obtain ⟨a', same, composes⟩ := exists_breakdown_composes key accepted (some 1)
  obtain rfl : a = a' := Except.ok.inj (answered.symm.trans same)
  rw [ranking_twoTrackers] at composes
  exact composes.keys

/-- **The index may be refused although there are items to rank.** One of two breakdowns has one
mark more than there may be. -/
theorem breakdown_accepted_index_refused :
    Warehouse.closedIssue.Reachable ∧
    (∃ a, Count.opened.aggregate .closedIssue (.closedBy 32763) = .ok a ∧
      Count.opened.Shows .repository (fun _ => 1) ["t"] a) ∧
    ∃ fault, list .closedIssue (.closedBy 32763) = .error (.database fault) := by
  have key : Dimension.repository.key? .its = some (.repository .its) := rfl
  have accepted : (Count.opened.query .closedIssue (.closedBy 32763) (some .repository)).Admitted
      .aggregate := by decide
  obtain ⟨a, answered, keys, values⟩ :=
    Count.exists_breakdown (c := .opened) key rfl accepted
  rw [opened_listed_closedBy] at keys values
  rw [List.map_singleton, opened_itemTotal_closedBy] at values
  refine ⟨⟨_, rfl⟩, ⟨a, answered, keys, values⟩, ?_⟩
  refine breakdown_refused key (fun both => ?_) _
  have marks : 32763 + 4 ≤ Limits.marks := Count.marksOf_closedBy 32763 ▸ both.1.1
  exact absurd marks (by decide)

end Backlog

end ActivityMetrics
