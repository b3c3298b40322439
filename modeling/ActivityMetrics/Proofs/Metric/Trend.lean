import ActivityMetrics.Metric.Catalog
import ActivityMetrics.Proofs.Metric.DrillDown
import ActivityMetrics.Proofs.Result.Items

/-!
# What a trend reads for an item

A trend by item joins two rankings, that of the recent days and that of the days before. An item of
one of them is read as zero in the other when it is missing there. Without a limit it is missing
only where it does not occur, and the trend reads the totals of the item. With a limit it may also
be missing because the ranking ends before it, and then zero is read although the item has a total
(`Count.trend_every`).

The limit is applied to each window by itself, before the two are joined. An item that is among the
first in the recent window and just not among them in the window before is listed, as it should be,
and is compared with zero instead of its total: it seems to have come from nothing. This does not
happen to rare items but to those that move, which are the ones that a trend is about
(`Count.trend_every_overtaking`). How many items are listed is not what the limit says either, as
the two rankings may have different ones.

So the statement tells two reasons apart for which an item may be missing. It does not occur in the
window, or it occurs and is cut off (`Count.cutOff`).
-/

namespace ActivityMetrics

open Calendar

/-! ## Aligned items

Two lists of items with values are put beside each other, without regard to where they come from. -/

namespace Trend

/-- The value of an item is the one that is listed with it, or zero. -/
theorem valueOf_map (items : List String) (g : String → Option Float) (v : String) :
    valueOf (items.map .text) (items.map g) (.text v) = if v ∈ items then g v else some 0 := by
  have found := getElem?_idxOf? items g v
  rw [valueOf, idxOf?_map_text]
  cases position : items.idxOf? v with
  | none => rw [if_neg (List.idxOf?_eq_none_iff.1 position)]
  | some i =>
    have there : v ∈ items := List.isSome_idxOf?.1 (Option.isSome_iff_exists.2 ⟨i, position⟩)
    rw [position, Option.bind_some, if_pos there] at found
    rw [if_pos there]
    show ((items.map g)[i]?).join = _
    rw [found]
    rfl

/-- The comparison of two breakdowns, whatever their values. -/
theorem scopeOf_items {metric : String} {d : Dimension} {last previous : Answer}
    {lastItems previousItems : List String} {l p : String → Datum}
    (lastKeys : last.list? d.name = some (lastItems.map .text))
    (lastValues : last.list? metric = some (lastItems.map l))
    (previousKeys : previous.list? d.name = some (previousItems.map .text))
    (previousValues : previous.list? metric = some (previousItems.map p)) :
    scopeOf metric (some d) last previous
      = .ok (.items d ((keepFirsts lastItems previousItems).map .text)
        ((keepFirsts lastItems previousItems).map fun v =>
          TrendValues.of (if v ∈ lastItems then (l v).number? else some 0)
            (if v ∈ previousItems then (p v).number? else some 0))) := by
  have keyed : ∀ {a : Answer} {items : List String} {g : String → Datum},
      a.list? d.name = some (items.map .text) → a.list? metric = some (items.map g) →
      keyedOf a d.name metric = .ok (items.map .text, items.map fun v => (g v).number?) := by
    intro a items g keys values
    have lengths : (items.map Datum.text).length = (items.map g).length := by
      rw [List.length_map, List.length_map]
    simp only [keyedOf, keys, values]
    rw [if_pos lengths, List.map_map]
    rfl
  simp only [scopeOf, keyed lastKeys lastValues, keyed previousKeys previousValues, bind,
    Except.bind, align, keepFirsts_map_text, List.map_map, pure, Except.pure]
  simp only [Function.comp_def, valueOf_map, List.zipWith_map, List.zipWith_self]

/-- The comparison of two breakdowns by numbers. -/
theorem scopeOf_eq {metric : String} {d : Dimension} {last previous : Answer}
    {lastItems previousItems : List String} {l p : String → Nat}
    (lastKeys : last.list? d.name = some (lastItems.map .text))
    (lastValues : last.list? metric = some (lastItems.map fun v => .int (l v)))
    (previousKeys : previous.list? d.name = some (previousItems.map .text))
    (previousValues : previous.list? metric = some (previousItems.map fun v => .int (p v))) :
    scopeOf metric (some d) last previous
      = .ok (.items d ((keepFirsts lastItems previousItems).map .text)
        ((keepFirsts lastItems previousItems).map fun v =>
          TrendValues.of (some (Float.ofInt (if v ∈ lastItems then l v else 0 : Nat)))
            (some (Float.ofInt (if v ∈ previousItems then p v else 0 : Nat))))) := by
  have read : ∀ (items : List String) (n : String → Nat) (v : String),
      (if v ∈ items then (Datum.int (n v)).number? else some 0)
        = some (Float.ofInt (if v ∈ items then n v else 0 : Nat)) := by
    intro items n v
    split <;> rfl
  rw [scopeOf_items lastKeys lastValues previousKeys previousValues]
  simp only [read]

/-! ## The two windows

The recent window ends at the anchor, and the earlier one where the recent one begins. -/

/-- A day that is so many days before another is found as such. -/
theorem daysBefore_eq_ok {d earlier : Date} {days : Nat} (h : earlier.day = d.day - days) :
    daysBefore d days = .ok earlier := by
  have found : d.addDays? (-days) = some earlier :=
    Date.ofDay?_eq_some_iff.2 (h.trans Int.sub_eq_add_neg)
  rw [daysBefore, found]

/-- The two windows exist when the first day of the earlier one does. The day between them is then
in the calendar as well. -/
theorem exists_windows (f : Filter) {anchor first : Date} {days : Nat} (pos : 1 ≤ days)
    (hf : first.day = anchor.day - 2 * days) :
    ∃ middle recent earlier, middle.day = anchor.day - days ∧ first.day = middle.day - days ∧
      f.withWindow middle anchor = .ok recent ∧ f.withWindow first middle = .ok earlier := by
  have early := first.first_le
  have late := anchor.le_last
  obtain ⟨middle, hm⟩ : ∃ middle : Date, middle.day = anchor.day - days :=
    ⟨⟨anchor.day - days, by omega, by omega⟩, rfl⟩
  obtain ⟨recent, hr⟩ := f.exists_withWindow (show middle.day < anchor.day by omega)
  obtain ⟨earlier, he⟩ := f.exists_withWindow (show first.day < middle.day by omega)
  exact ⟨middle, recent, earlier, hm, by omega, hr, he⟩

/-- A trend over windows that exist. The two answers are asked for one after the other, and the
first failure is that of the trend. -/
theorem compute_eq {metric : String} {answer : Filter → Outcome Answer} {f recent earlier : Filter}
    {anchor middle first : Date} {days : Nat} (pos : 1 ≤ days)
    (hm : middle.day = anchor.day - days) (hf : first.day = middle.day - days)
    (hr : f.withWindow middle anchor = .ok recent) (he : f.withWindow first middle = .ok earlier) :
    compute metric answer f anchor days = (do
      let last ← answer recent
      let previous ← answer earlier
      let scope ← scopeOf metric f.group? last previous
      return { metric, days, anchor, scope }) := by
  have some_day : ¬ days = 0 := by omega
  simp only [compute, if_neg some_day, daysBefore_eq_ok hm, daysBefore_eq_ok hf, hr, he, bind,
    Except.bind, pure, Except.pure]

/-- A trend fails when the answer over its recent days does. -/
theorem compute_refused {metric : String} {answer : Filter → Outcome Answer}
    {f recent earlier : Filter} {anchor middle first : Date} {days : Nat} (pos : 1 ≤ days)
    (hm : middle.day = anchor.day - days) (hf : first.day = middle.day - days)
    (hr : f.withWindow middle anchor = .ok recent) (he : f.withWindow first middle = .ok earlier)
    (refused : ∃ fault, answer recent = .error (.database fault)) :
    ∃ fault, compute metric answer f anchor days = .error (.database fault) := by
  obtain ⟨fault, failed⟩ := refused
  refine ⟨fault, ?_⟩
  rw [compute_eq pos hm hf hr he]
  simp only [failed, bind, Except.bind]

end Trend

/-! ## Counting metrics

What a trend reads for an item is compared with the total that the item has alone. -/

namespace Count

variable {c : Count} {w : Warehouse} {f : Filter} {d : Dimension} {key : GroupKey} {v : String}

/-- The items that occur in a window and are not listed, since the ranking ends before them. This is
what a limit does that nothing in the answer shows. -/
def cutOff (c : Count) (w : Warehouse) (f : Filter) (d : Dimension) (key : GroupKey) :
    List String :=
  (c.query w f (some d)).cutItems key ((c.query w f (some d)).matchesIn w)

/-- Without a limit no item is cut off. -/
theorem cutOff_of_unlimited (h : f.limit = none) : c.cutOff w f d key = [] := by
  have unlimited : (c.query w f (some d)).limit = none := h
  rw [cutOff, Query.cutItems, unlimited]
  rfl

/-- The number that a trend reads for an item: its total where it is listed, and zero elsewhere. The
zero is right for an item that does not occur, and wrong for one that the limit has cut off. -/
def readTotal (c : Count) (w : Warehouse) (f : Filter) (d : Dimension) (key : GroupKey)
    (v : String) : Nat :=
  if v ∈ c.listed w f d key then c.itemTotal w f d key v else 0

/-- **A trend reads the total of an item exactly when the item is not cut off.** An item that does
not occur has the total zero, and zero is read. -/
theorem readTotal_eq_iff :
    c.readTotal w f d key v = c.itemTotal w f d key v ↔ v ∉ c.cutOff w f d key := by
  have occurs : c.itemTotal w f d key v ≠ 0 ↔ _ := itemTotal_ne_zero_iff
  rw [cutOff, Query.mem_cutItems_iff, ← occurs]
  show _ ↔ ¬ (_ ∧ v ∉ c.listed w f d key)
  by_cases listed : v ∈ c.listed w f d key
  · rw [readTotal, if_pos listed]
    exact ⟨fun _ h => h.2 listed, fun _ => rfl⟩
  · rw [readTotal, if_neg listed]
    constructor
    · exact fun zero h => h.1 zero.symm
    · intro h
      by_cases zero : c.itemTotal w f d key v = 0
      · exact zero.symm
      · exact absurd ⟨zero, listed⟩ h

/-- An item that is cut off is read as zero. -/
theorem readTotal_of_mem_cutOff (h : v ∈ c.cutOff w f d key) : c.readTotal w f d key v = 0 :=
  if_neg (Query.mem_cutItems_iff.1 h).2

/-- What a trend reads for an item over a window: the total of the item unless it is cut off, and
zero instead of it if it is. The total is that of the item's own answer, as far as this is accepted;
and since an item that is cut off has a total, the equivalence says that what is read is wrong for
exactly these. -/
structure Reads (c : Count) (w : Warehouse) (f : Filter) (d : Dimension) (key : GroupKey)
    (v : String) (n : Nat) : Prop where
  /-- An item that is cut off is read as zero. -/
  cut : v ∈ c.cutOff w f d key → n = 0
  /-- The total of the item is read exactly when the item is not cut off. -/
  total : (c.query w (f.only d v) none).Admitted .aggregate →
    ∃ b t, c.aggregate w (f.only d v) = .ok b ∧ b.scalar? c.id = some (.int t) ∧
      (n = t ↔ v ∉ c.cutOff w f d key)

/-- What a trend reads is this. -/
theorem reads_readTotal (hk : d.key? c.source = some key) (every : f.selection = .every d)
    (v : String) : c.Reads w f d key v (c.readTotal w f d key v) := by
  refine ⟨readTotal_of_mem_cutOff, fun admitted => ?_⟩
  obtain ⟨b, answered, total⟩ := exists_total_only hk every admitted
  refine ⟨b, c.itemTotal w f d key v, answered, total, ?_⟩
  rw [Int.ofNat_inj]
  exact readTotal_eq_iff

/-- **What a trend by item compares.** For every item that it lists, a trend reads the totals of the
item over the two windows, unless the limit cuts the item off in one of them. An item that is cut
off is read as zero there, although it has a total. A statement that is not accepted fails in the
database.

The limit is that of the filter, whatever it is. Without one nothing is cut off
(`Count.cutOff_of_unlimited`), and the trend compares totals. The windows are part of the
conclusion: they exist if the first day of the earlier one does, and the filters over them are those
whose answers are compared. -/
theorem trend_every (c : Count) (w : Warehouse) {f : Filter} {d : Dimension} {key : GroupKey}
    (hk : d.key? c.source = some key) (every : f.selection = .every d) {anchor first : Date}
    {days : Nat} (pos : 1 ≤ days) (hf : first.day = anchor.day - 2 * days) :
    ∃ middle recent earlier, middle.day = anchor.day - days ∧
      f.withWindow middle anchor = .ok recent ∧ f.withWindow first middle = .ok earlier ∧
      ((c.query w f (some d)).Admitted .aggregate → ∃ (items : List String) (l p : String → Nat),
        (Metric.count c).trend w f anchor days = .ok ⟨c.id, days, anchor,
          .items d (items.map .text) (items.map fun v =>
            .of (some (.ofInt (l v))) (some (.ofInt (p v))))⟩ ∧
        items.Nodup ∧
        (∀ v, v ∈ items ↔ v ∈ c.listed w recent d key ∨ v ∈ c.listed w earlier d key) ∧
        ∀ v ∈ items, c.Reads w recent d key v (l v) ∧ c.Reads w earlier d key v (p v)) ∧
      (¬ (c.query w f (some d)).Admitted .aggregate →
        ∃ fault, (Metric.count c).trend w f anchor days = .error (.database fault)) := by
  have early := first.first_le
  have late := anchor.le_last
  obtain ⟨middle, hm⟩ : ∃ middle : Date, middle.day = anchor.day - days :=
    ⟨⟨anchor.day - days, by omega, by omega⟩, rfl⟩
  obtain ⟨recent, hr⟩ := f.exists_withWindow (show middle.day < anchor.day by omega)
  obtain ⟨earlier, he⟩ := f.exists_withWindow (show first.day < middle.day by omega)
  have everyRecent : recent.selection = .every d := (Filter.selection_withWindow hr).trans every
  have everyEarlier : earlier.selection = .every d := (Filter.selection_withWindow he).trans every
  have grouped := Filter.group?_of_every every
  -- both windows are asked with the limit of the filter, so each ranking ends on its own
  have computed : (Metric.count c).trend w f anchor days = _ :=
    Trend.compute_eq pos hm (show first.day = middle.day - days by omega) hr he
  refine ⟨middle, recent, earlier, hm, hr, he, fun h => ?_, fun h => ?_⟩
  · obtain ⟨a, answered, keys, values⟩ :=
      exists_breakdown hk everyRecent ((admitted_withWindow_iff hr).2 h)
    obtain ⟨b, answered', keys', values'⟩ :=
      exists_breakdown hk everyEarlier ((admitted_withWindow_iff he).2 h)
    have scope := Trend.scopeOf_eq keys values keys' values'
    refine ⟨keepFirsts (c.listed w recent d key) (c.listed w earlier d key),
      c.readTotal w recent d key, c.readTotal w earlier d key, ?_,
      nodup_keepFirsts (Query.nodup_rankedItems _ _ _), fun _ => mem_keepFirsts, fun v _ =>
        ⟨reads_readTotal hk everyRecent v, reads_readTotal hk everyEarlier v⟩⟩
    have last : (Metric.count c).aggregate w recent = .ok a := answered
    have previous : (Metric.count c).aggregate w earlier = .ok b := answered'
    have named : (Metric.count c).id = c.id := rfl
    rw [computed]
    simp only [last, previous, grouped, named, scope, bind, Except.bind, pure, Except.pure,
      readTotal]
  · have refused : ∃ fault, (Metric.count c).aggregate w recent = .error (.database fault) :=
      aggregate_every_refused hk everyRecent fun accepted =>
        h ((admitted_withWindow_iff hr).1 accepted)
    obtain ⟨fault, failed⟩ := refused
    refine ⟨fault, ?_⟩
    rw [computed]
    simp only [failed, bind, Except.bind]

end Count

/-! ## A repository that is cut off -/

/-- A repository with a commit in the first week of 2025 and two in the second, and another with two
in the first and one in the second. -/
def Warehouse.overtaking : Warehouse :=
  .load .empty
    [.nameRepository "a" none, .nameRepository "b" none,
      .insertCommit "r1" 1 none none "2025-01-01", .insertCommit "r2" 2 none none "2025-01-02",
      .insertCommit "r3" 2 none none "2025-01-03", .insertCommit "r4" 1 none none "2025-01-08",
      .insertCommit "r5" 1 none none "2025-01-09", .insertCommit "r6" 2 none none "2025-01-10"]

/-- The first repository of the first two weeks of 2025. -/
def Filter.leader : Filter :=
  { january (.every .repository) with
    stop := ⟨20103, by decide, by decide⟩
    start_lt_stop := by decide
    limit := some 1 }

/-- **A repository with a commit is read as zero.** The repository that leads in the second week is
cut off in the first. -/
theorem Count.trend_every_overtaking :
    ∃ (items : List String) (l p : String → Nat) (middle : Date) (earlier : Filter),
      (Metric.count commits).trend .overtaking .leader Filter.leader.stop 7
        = .ok ⟨"commits", 7, Filter.leader.stop, .items .repository (items.map .text)
          (items.map fun v => .of (some (.ofInt (l v))) (some (.ofInt (p v))))⟩ ∧
      "a" ∈ items ∧ p "a" = 0 ∧
      middle.day = Filter.leader.stop.day - 7 ∧
      Filter.leader.withWindow Filter.leader.start middle = .ok earlier ∧
      ∃ b t, commits.aggregate .overtaking (earlier.only .repository "a") = .ok b ∧
        b.scalar? "commits" = some (.int t) ∧ t ≠ 0 := by
  have key : Dimension.repository.key? commits.source = some (.repository .scm) := rfl
  have every : Filter.leader.selection = .every .repository := rfl
  have fortnight : Filter.leader.start.day = Filter.leader.stop.day - 2 * (7 : Nat) := rfl
  have accepted : (commits.query .overtaking .leader (some .repository)).Admitted .aggregate := by
    decide
  obtain ⟨middle, recent, earlier, hm, hr, he, answered, -⟩ :=
    commits.trend_every .overtaking key every (by decide) fortnight
  obtain ⟨items, l, p, trend, _, mem, reads⟩ := answered accepted
  have day : middle = ⟨20096, by decide, by decide⟩ := Date.ext hm
  have leads : commits.listed .overtaking recent .repository (.repository .scm) = ["a"] := by
    obtain ⟨_, rfl⟩ := Filter.withWindow_eq_ok_iff.1 hr
    subst day
    cbv
  have cut : commits.cutOff .overtaking earlier .repository (.repository .scm) = ["a"] := by
    obtain ⟨_, rfl⟩ := Filter.withWindow_eq_ok_iff.1 he
    subst day
    cbv
  have single : (commits.query .overtaking (earlier.only .repository "a") none).Admitted
      .aggregate := by
    have whole : (commits.query .overtaking (Filter.leader.only .repository "a") none).Admitted
        .aggregate := by decide
    exact (admitted_withWindow_iff (Filter.withWindow_only he _ _)).2 whole
  have listed : "a" ∈ items := (mem "a").2 (.inl (leads ▸ List.mem_singleton.2 rfl))
  have gone : "a" ∈ commits.cutOff .overtaking earlier .repository (.repository .scm) :=
    cut ▸ List.mem_singleton.2 rfl
  have zero : p "a" = 0 := (reads "a" listed).2.cut gone
  obtain ⟨b, t, total, scalar, same⟩ := (reads "a" listed).2.total single
  refine ⟨items, l, p, middle, earlier, trend, listed, zero, hm, he, b, t, total, scalar, ?_⟩
  intro none
  exact same.1 (by rw [zero, none]; rfl) gone

end ActivityMetrics
