import ActivityMetrics.Proofs.Metric.Backlog
import ActivityMetrics.Proofs.Metric.Trend

/-!
# Trends of the index of the backlog

The index is undefined over a window in which nothing was opened, and a trend keeps this apart from
zero. The trend of a single item is undefined in exactly the windows in which nothing was opened for
it. A trend by item joins the breakdowns of the two windows, and these list an item only where
something was opened or closed. Where the item is listed, the trend reads what the item has alone.
Where it is not, the index of the item is undefined as well, but the trend reads zero
(`Backlog.trend_by_item`).

For a count this is right: an item that a breakdown leaves out has the count zero. The index is not
a count. An item that is left out has nothing opened, which is one of the ways to have no index, and
to read zero there is to say that of the issues opened none were closed, of which there were none.
So two conditions are close to one another and have to be told apart. Nothing opened leaves the
index undefined, and nothing opened and nothing closed leaves the item out (`Backlog.Idle`). An item
with something closed alone is listed with an undefined index and is read correctly.

Hence an item without an index in one of the windows may have one in the trend, and then also a
difference (`Backlog.trend_by_item_twoTrackers`).
-/

namespace ActivityMetrics

open Calendar

/-! ## Comparisons

A trend does not show two values but the comparison made of them. That two trends are different has
to be seen in the comparisons, and so it is said first that a comparison determines its values. -/

namespace TrendValues

variable {last previous : Option Float}

/-- A comparison has the value of the last window that it was made of. -/
@[simp]
theorem last_of : (of last previous).last = last := by
  cases last <;> cases previous <;> rfl

/-- A comparison has the value of the window before that it was made of. -/
@[simp]
theorem previous_of : (of last previous).previous = previous := by
  cases last <;> cases previous <;> rfl

/-- Comparisons are the same when they compare the same values. The difference and the percentage
add nothing to the two values, from which they are computed. -/
theorem of_eq_of_iff {last' previous' : Option Float} :
    of last previous = of last' previous' ↔ last = last' ∧ previous = previous' := by
  constructor
  · intro same
    exact ⟨by simpa using congrArg TrendValues.last same,
      by simpa using congrArg TrendValues.previous same⟩
  · rintro ⟨rfl, rfl⟩
    rfl

/-- Nothing is computed from an undefined value: with one of the two missing there is neither a
difference nor a percentage. -/
theorem undefined_of (h : last = none ∨ previous = none) :
    (of last previous).delta = none ∧ (of last previous).percentage = none := by
  rcases h with rfl | rfl
  · exact ⟨rfl, rfl⟩
  · cases last <;> exact ⟨rfl, rfl⟩

end TrendValues

namespace Backlog

variable {w : Warehouse} {f g : Filter} {d : Dimension} {key : GroupKey}
variable {group : Option Dimension} {v : String}

/-! ## One window

What a trend by item reads over one window is compared with what the item has alone over this
window. The two windows of a trend are treated in the same way, so that all of this is said once. -/

/-- The index of an item over a window, unless it is undefined. It is computed from what was closed
and opened for the item, however the item is asked for. -/
def indexOf (w : Warehouse) (g : Filter) (d : Dimension) (key : GroupKey) (v : String) :
    Option Float :=
  (index (.int (Count.closed.itemTotal w g d key v))
    (.int (Count.opened.itemTotal w g d key v))).number?

/-- Nothing is closed or opened for an item in a window. This is the condition under which a
breakdown by item has no line for it, and it is more than that nothing was opened. -/
def Idle (w : Warehouse) (g : Filter) (d : Dimension) (key : GroupKey) (v : String) : Prop :=
  Count.closed.itemTotal w g d key v = 0 ∧ Count.opened.itemTotal w g d key v = 0

/-- The index is undefined exactly where nothing was opened. What was closed does not matter for
this. -/
theorem indexOf_eq_none_iff :
    indexOf w g d key v = none ↔ Count.opened.itemTotal w g d key v = 0 := by
  rw [← index_eq_null_iff (Count.closed.itemTotal w g d key v), indexOf, index]
  cases (ratio _ _).map (· * 100)
  · exact iff_of_true rfl rfl
  · exact iff_of_false nofun nofun

/-- An item is idle exactly when neither of the two breakdowns lists it. With a limit a breakdown
may leave out an item that has something, and so there must be none. -/
theorem occurs_iff (unlimited : g.limit = none) :
    Occurs w g d key v ↔ ¬ Idle w g d key v := by
  rw [Idle, itemTotal_eq_zero_iff unlimited, itemTotal_eq_zero_iff unlimited, and_comm, ← not_or,
    not_not, Occurs]

/-- What a trend by item reads for an item over a window, and the index of the item alone. The value
that is read and the value of the item alone are compared through the two numbers of the item, which
can be asked for. -/
structure ReadsIndex (w : Warehouse) (g : Filter) (d : Dimension) (key : GroupKey) (v : String)
    (read alone : Option Float) : Prop where
  /-- The numbers of the item alone. -/
  single : ∃ b, aggregate w (g.only d v) = .ok b ∧
    b.scalar? "closed" = some (.int (Count.closed.itemTotal w g d key v)) ∧
    b.scalar? "opened" = some (.int (Count.opened.itemTotal w g d key v))
  /-- The item alone has no index exactly where nothing was opened. -/
  undefined : alone = none ↔ Count.opened.itemTotal w g d key v = 0
  /-- An idle item is read as zero. -/
  idle : Idle w g d key v → read = some 0
  /-- Other items are read as they are alone. -/
  busy : ¬ Idle w g d key v → read = alone

/-- The index of an item is read exactly where the item is not idle. An idle item is read as zero
and has no index, so that the condition cannot be weakened. -/
theorem ReadsIndex.eq_iff {read alone : Option Float} (h : ReadsIndex w g d key v read alone) :
    read = alone ↔ ¬ Idle w g d key v := by
  refine ⟨fun same idle => ?_, h.busy⟩
  rw [h.idle idle, h.undefined.2 idle.2] at same
  cases same

/-- Items that are listed, which are those that are not idle, are read as they are alone. The trend
falls back on zero for the others. -/
theorem readsIndex_ite {items : List String} (hk : d.key? .its = some key)
    (every : g.selection = .every d) (h : Accepted w (g.only d v) none)
    (mem : v ∈ items ↔ ¬ Idle w g d key v) :
    ReadsIndex w g d key v (if v ∈ items then indexOf w g d key v else some 0)
      (indexOf w g d key v) := by
  obtain ⟨b, answered, fields⟩ := exists_aggregate_only hk every h
  exact ⟨⟨b, answered, fields "closed" (by decide), fields "opened" (by decide)⟩,
    indexOf_eq_none_iff, fun idle => if_neg fun there => mem.1 there idle,
    fun busy => if_pos (mem.2 busy)⟩

/-! ## The two windows

A trend is computed from two answers. Whether the database accepts their statements does not depend
on the window, so that one condition is enough for both. -/

/-- The statements over another window are accepted when those over the filter's own window are. -/
theorem accepted_withWindow_iff {start stop : Date} (h : f.withWindow start stop = .ok g) :
    Accepted w g group ↔ Accepted w f group :=
  and_congr (Count.admitted_withWindow_iff h) (Count.admitted_withWindow_iff h)

/-- The comparison of two breakdowns of the index. Its items are those of the last window followed
by those that only the window before has, and for each the index is taken from where it is listed,
and zero from where it is not. -/
theorem scopeOf_composes {last previous : Answer} {lastItems previousItems : List String}
    {recent earlier : Filter}
    (lastComposes : Composes lastItems (fun field v =>
      entry (.int (Count.closed.itemTotal w recent d key v))
        (.int (Count.opened.itemTotal w recent d key v)) field) d.name last)
    (previousComposes : Composes previousItems (fun field v =>
      entry (.int (Count.closed.itemTotal w earlier d key v))
        (.int (Count.opened.itemTotal w earlier d key v)) field) d.name previous) :
    Trend.scopeOf field (some d) last previous
      = .ok (.items d ((keepFirsts lastItems previousItems).map .text)
        ((keepFirsts lastItems previousItems).map fun v =>
          .of (if v ∈ lastItems then indexOf w recent d key v else some 0)
            (if v ∈ previousItems then indexOf w earlier d key v else some 0))) :=
  Trend.scopeOf_items lastComposes.keys (lastComposes.fields field (by decide))
    previousComposes.keys (previousComposes.fields field (by decide))

section

variable {recent earlier : Filter} {anchor middle first : Date} {days : Nat}

/-- The trend by item joins the breakdowns of the two windows. The lists of items are left unnamed
but for the items that are in them: their order comes from the ranking by index, which is of no
interest here. -/
theorem exists_trend_every (hk : d.key? .its = some key) (every : f.selection = .every d)
    (unlimited : f.limit = none) (pos : 1 ≤ days) (hm : middle.day = anchor.day - days)
    (hf : first.day = middle.day - days) (hr : f.withWindow middle anchor = .ok recent)
    (he : f.withWindow first middle = .ok earlier) (h : Accepted w f (some d)) :
    ∃ lastItems previousItems : List String, lastItems.Nodup ∧
      (∀ v, v ∈ lastItems ↔ ¬ Idle w recent d key v) ∧
      (∀ v, v ∈ previousItems ↔ ¬ Idle w earlier d key v) ∧
      Metric.backlog.trend w f anchor days = .ok ⟨field, days, anchor,
        .items d ((keepFirsts lastItems previousItems).map .text)
          ((keepFirsts lastItems previousItems).map fun v =>
            .of (if v ∈ lastItems then indexOf w recent d key v else some 0)
              (if v ∈ previousItems then indexOf w earlier d key v else some 0))⟩ := by
  have unlimitedRecent := (Filter.limit_withWindow hr).trans unlimited
  have unlimitedEarlier := (Filter.limit_withWindow he).trans unlimited
  obtain ⟨a, lastItems, last, nodup, lastMem, lastComposes⟩ := exists_aggregate_composes hk
    ((Filter.selection_withWindow hr).trans every) unlimitedRecent
    ((accepted_withWindow_iff hr).2 h)
  obtain ⟨b, previousItems, previous, _, previousMem, previousComposes⟩ :=
    exists_aggregate_composes hk ((Filter.selection_withWindow he).trans every) unlimitedEarlier
      ((accepted_withWindow_iff he).2 h)
  have computed : Metric.backlog.trend w f anchor days = _ := Trend.compute_eq pos hm hf hr he
  refine ⟨lastItems, previousItems, nodup, fun v => (lastMem v).trans (occurs_iff unlimitedRecent),
    fun v => (previousMem v).trans (occurs_iff unlimitedEarlier), ?_⟩
  rw [computed]
  simp only [Metric.aggregate, Metric.id, last, previous, Filter.group?_of_every every,
    scopeOf_composes lastComposes previousComposes, bind, Except.bind, pure, Except.pure]

/-- The trend of a single item compares its indexes. There is no list to be looked up in this case,
and what is undefined stays undefined. -/
theorem trend_only (hk : d.key? .its = some key) (every : f.selection = .every d)
    (pos : 1 ≤ days) (hm : middle.day = anchor.day - days) (hf : first.day = middle.day - days)
    (hr : f.withWindow middle anchor = .ok recent) (he : f.withWindow first middle = .ok earlier)
    (h : Accepted w (f.only d v) none) :
    Metric.backlog.trend w (f.only d v) anchor days = .ok ⟨field, days, anchor,
      .total (.of (indexOf w recent d key v) (indexOf w earlier d key v))⟩ := by
  have recentOnly := Filter.withWindow_only hr d v
  have earlierOnly := Filter.withWindow_only he d v
  obtain ⟨a, last, lastFields⟩ := exists_aggregate_only hk
    ((Filter.selection_withWindow hr).trans every) ((accepted_withWindow_iff recentOnly).2 h)
  obtain ⟨b, previous, previousFields⟩ := exists_aggregate_only hk
    ((Filter.selection_withWindow he).trans every) ((accepted_withWindow_iff earlierOnly).2 h)
  have computed : Metric.backlog.trend w (f.only d v) anchor days = _ :=
    Trend.compute_eq pos hm hf recentOnly earlierOnly
  have ungrouped : (f.only d v).group? = none := rfl
  rw [computed]
  simp only [Metric.aggregate, Metric.id, last, previous, ungrouped, Trend.scopeOf, Trend.scalarOf,
    lastFields field (by decide), previousFields field (by decide), entry_field, bind, Except.bind,
    pure, Except.pure]
  rfl

/-- A trend fails when the answer over its recent days does. This answer is asked for first, so the
failure is that of the database whatever the answer over the days before would be. -/
theorem trend_refused {g : Filter} (pos : 1 ≤ days) (hm : middle.day = anchor.day - days)
    (hf : first.day = middle.day - days) (hr : g.withWindow middle anchor = .ok recent)
    (he : g.withWindow first middle = .ok earlier)
    (refused : ∃ fault, aggregate w recent = .error (.database fault)) :
    ∃ fault, Metric.backlog.trend w g anchor days = .error (.database fault) :=
  Trend.compute_refused pos hm hf hr he refused

end

/-! ## The theorem -/

/-- **What a trend of the index by item compares.** For every item that it lists, a trend reads the
indexes of the item over the two windows, undefined where nothing was opened, unless the item is
idle in one of them. There it reads zero, although the item alone has no index. So the trend is that
of the item alone exactly if the item is idle in neither window. A statement that is not accepted
fails in the database.

What the trend should be is not a formula of this file but another answer, that of the trend of the
item alone. Both are computed from the same numbers of closed and opened issues, and each of the two
values of the trend is related to them by `ReadsIndex`. That the comparison agrees is then an
equivalence, and not only a condition that is enough: whenever an item is idle in one of the
windows, the trend by item does differ from that of the item alone.

The filter has no limit. With one an item may be missing from a breakdown although it has issues,
which is another way in which a trend by item departs from that of an item alone. -/
theorem trend_by_item (w : Warehouse) {f : Filter} {d : Dimension} {key : GroupKey}
    (hk : d.key? .its = some key) (every : f.selection = .every d) (unlimited : f.limit = none)
    {anchor first : Date} {days : Nat} (pos : 1 ≤ days) (hf : first.day = anchor.day - 2 * days) :
    ∃ middle recent earlier, middle.day = anchor.day - days ∧
      f.withWindow middle anchor = .ok recent ∧ f.withWindow first middle = .ok earlier ∧
      (Accepted w f (some d) → ∃ (items : List String) (l p : String → Option Float),
        Metric.backlog.trend w f anchor days = .ok ⟨field, days, anchor,
          .items d (items.map .text) (items.map fun v => .of (l v) (p v))⟩ ∧
        items.Nodup ∧
        (∀ v, v ∈ items ↔ ¬ (Idle w recent d key v ∧ Idle w earlier d key v)) ∧
        (∀ v, l v = none ∨ p v = none → (TrendValues.of (l v) (p v)).delta = none ∧
          (TrendValues.of (l v) (p v)).percentage = none) ∧
        ∀ v, Accepted w (f.only d v) none → ∃ lastAlone previousAlone,
          Metric.backlog.trend w (f.only d v) anchor days = .ok ⟨field, days, anchor,
            .total (.of lastAlone previousAlone)⟩ ∧
          ReadsIndex w recent d key v (l v) lastAlone ∧
          ReadsIndex w earlier d key v (p v) previousAlone ∧
          (TrendValues.of (l v) (p v) = .of lastAlone previousAlone ↔
            ¬ Idle w recent d key v ∧ ¬ Idle w earlier d key v)) ∧
      (¬ Accepted w f (some d) →
        ∃ fault, Metric.backlog.trend w f anchor days = .error (.database fault)) ∧
      ∀ v, ¬ Accepted w (f.only d v) none →
        ∃ fault, Metric.backlog.trend w (f.only d v) anchor days = .error (.database fault) := by
  obtain ⟨middle, recent, earlier, hm, hf, hr, he⟩ := Trend.exists_windows f pos hf
  have everyRecent := (Filter.selection_withWindow hr).trans every
  have everyEarlier := (Filter.selection_withWindow he).trans every
  have unlimitedRecent := (Filter.limit_withWindow hr).trans unlimited
  refine ⟨middle, recent, earlier, hm, hr, he, fun h => ?_, fun h => ?_, fun v h => ?_⟩
  · obtain ⟨lastItems, previousItems, nodup, lastMem, previousMem, trend⟩ :=
      exists_trend_every hk every unlimited pos hm hf hr he h
    refine ⟨_, _, _, trend, nodup_keepFirsts nodup, fun v => ?_, fun v =>
      TrendValues.undefined_of, fun v accepted => ?_⟩
    · rw [mem_keepFirsts, lastMem, previousMem, not_and_or]
    -- the trend falls back on zero for exactly the items that are idle in a window
    · have last := readsIndex_ite hk everyRecent
        ((accepted_withWindow_iff (Filter.withWindow_only hr d v)).2 accepted) (lastMem v)
      have previous := readsIndex_ite hk everyEarlier
        ((accepted_withWindow_iff (Filter.withWindow_only he d v)).2 accepted) (previousMem v)
      refine ⟨_, _, trend_only hk every pos hm hf hr he accepted, last, previous, ?_⟩
      rw [TrendValues.of_eq_of_iff, last.eq_iff, previous.eq_iff]
  · -- the statements do not depend on the window, so that they are refused over the recent days too
    exact trend_refused pos hm hf hr he
      (aggregate_every_refused hk everyRecent unlimitedRecent fun accepted =>
        h ((accepted_withWindow_iff hr).1 accepted))
  · have recentOnly := Filter.withWindow_only hr d v
    exact trend_refused pos hm hf recentOnly (Filter.withWindow_only he d v)
      (aggregate_refused rfl fun accepted => h ((accepted_withWindow_iff recentOnly).1 accepted))

end Backlog

/-! ## A tracker without an index

An issue that is opened and closed within one week, in a tracker with nothing in the week before, is
enough for the trend by tracker to show an index of zero for that week. -/

/-- The week up to the fourth of January 2025, by tracker. -/
def Filter.turnOfYear : Filter :=
  { january (.every .repository) with
    start := ⟨20085, by decide, by decide⟩
    stop := ⟨20092, by decide, by decide⟩
    start_lt_stop := by decide }

/-- **An undefined index is read as zero.** In the week up to the fourth of January 2025 an issue
was opened and closed in a tracker that had none in the week before. -/
theorem Backlog.trend_by_item_twoTrackers :
    ∃ (items : List String) (l p : String → Option Float) (lastAlone : Option Float),
      Metric.backlog.trend .twoTrackers .turnOfYear Filter.turnOfYear.stop 7
        = .ok ⟨"bmi", 7, Filter.turnOfYear.stop,
          .items .repository (items.map .text) (items.map fun v => .of (l v) (p v))⟩ ∧
      "t" ∈ items ∧ p "t" = some 0 ∧
      Metric.backlog.trend .twoTrackers (Filter.turnOfYear.only .repository "t")
          Filter.turnOfYear.stop 7
        = .ok ⟨"bmi", 7, Filter.turnOfYear.stop, .total (.of lastAlone none)⟩ ∧
      TrendValues.of (l "t") (p "t") ≠ .of lastAlone none := by
  have key : Dimension.repository.key? .its = some (.repository .its) := rfl
  have every : Filter.turnOfYear.selection = .every .repository := rfl
  have fortnight : (⟨20078, by decide, by decide⟩ : Date).day
      = Filter.turnOfYear.stop.day - 2 * (7 : Nat) := rfl
  have accepted : Accepted .twoTrackers .turnOfYear (some .repository) := ⟨by decide, by decide⟩
  have acceptedTracker : Accepted .twoTrackers (Filter.turnOfYear.only .repository "t") none :=
    ⟨by decide, by decide⟩
  obtain ⟨middle, recent, earlier, hm, hr, he, answered, -⟩ :=
    trend_by_item .twoTrackers key every rfl (by decide) fortnight
  obtain ⟨items, l, p, trend, _, mem, _, single⟩ := answered accepted
  obtain ⟨lastAlone, previousAlone, alone, _, previous, same⟩ := single "t" acceptedTracker
  have day : middle = ⟨20085, by decide, by decide⟩ := Date.ext hm
  have opened : Count.opened.itemTotal .twoTrackers recent .repository (.repository .its) "t"
      = 1 := by
    obtain ⟨_, rfl⟩ := Filter.withWindow_eq_ok_iff.1 hr
    subst day
    cbv
  -- one issue was opened in the last week, and none was opened or closed in the week before
  have busy : ¬ Idle .twoTrackers recent .repository (.repository .its) "t" :=
    fun idle => absurd (opened.symm.trans idle.2) Nat.one_ne_zero
  have idle : Idle .twoTrackers earlier .repository (.repository .its) "t" := by
    obtain ⟨_, rfl⟩ := Filter.withWindow_eq_ok_iff.1 he
    subst day
    exact ⟨by cbv, by cbv⟩
  have undefined : previousAlone = none := previous.undefined.2 idle.2
  subst undefined
  exact ⟨items, l, p, lastAlone, trend, (mem "t").2 fun both => busy both.1, previous.idle idle,
    alone, fun agree => (same.1 agree).2 idle⟩

end ActivityMetrics
