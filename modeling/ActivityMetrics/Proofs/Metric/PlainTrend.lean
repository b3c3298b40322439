import ActivityMetrics.Proofs.Metric.BacklogTrend
import ActivityMetrics.Proofs.Metric.Conjunction
import ActivityMetrics.Proofs.Metric.Exclusion

/-!
# Trends of totals

A trend that is not broken down compares two totals, those over the days before the anchor and over
as many days before them. It fails as a filter does where one of these windows begins before the
calendar, or is empty. Everywhere else it has both totals, if the database accepts their statements,
and what it computes from them is undefined where they are (`Metric.trend_of_totals`).

Both windows come from the anchor. So nothing that the filter says about a window, its two ends, how
it is cut or how much of it is listed, is ever read (`Metric.trend_window`).

Which values are defined takes some care, as there are three ways for something to be missing. A
count is always a number. The index of a window in which nothing was opened is undefined, and then
there is neither a difference nor a percentage. And with two numbers there is always a difference,
but no percentage if the earlier one is zero. Undefined and zero must not be taken for each other:
zero is the value of a quiet window, and the difference from it is a number.
-/

namespace ActivityMetrics

open Calendar

/-! ## Comparisons

The comparison of two values that may be undefined, by itself. -/

/-- A quotient is defined unless the second number is zero. -/
theorem isSome_ratio {x y : Float} : (ratio x y).isSome ↔ (y == 0) = false := by
  unfold ratio
  split
  · rename_i zero
    exact iff_of_false nofun fun h => Bool.noConfusion (zero.symm.trans h)
  · rename_i nonzero
    exact iff_of_true rfl (Bool.eq_false_iff.2 nonzero)

namespace TrendValues

variable {last previous : Option Float}

/-- The difference is there when both values are, and is computed from them. -/
theorem delta_of : (of last previous).delta = last.bind fun l => previous.map fun p => l - p := by
  cases last <;> cases previous <;> rfl

/-- The difference in percent is undefined also where the earlier value is zero. -/
theorem percentage_of : (of last previous).percentage
    = last.bind fun l => previous.bind fun p => (ratio (l - p) p).map (· * 100) := by
  cases last <;> cases previous <;> rfl

/-- The comparison of two totals, each of them a number or undefined. For each of the two results
there is a field that says when it is there, as an equivalence, and a field that says what it is. -/
structure Compares (v : TrendValues) (last previous : Datum) : Prop where
  /-- The recent value is that of the total. -/
  last : v.last = last.number?
  /-- The earlier value is that of the total. -/
  previous : v.previous = previous.number?
  /-- There is a difference exactly when there are both values. -/
  isSome_delta : v.delta.isSome ↔ v.last.isSome ∧ v.previous.isSome
  /-- It is that of the values. -/
  delta : ∀ l p, v.last = some l → v.previous = some p → v.delta = some (l - p)
  /-- There is a difference in percent exactly when there are both values and the earlier one is not
  zero. -/
  isSome_percentage : v.percentage.isSome ↔
    v.last.isSome ∧ ∃ p, v.previous = some p ∧ (p == 0) = false
  /-- It is that of the values. -/
  percentage : ∀ l p, v.last = some l → v.previous = some p → (p == 0) = false →
    v.percentage = some ((l - p) / p * 100)

/-- **A trend of two totals compares them.** There is a case for each way in which values may be
missing. -/
theorem compares_of (last previous : Datum) :
    (of last.number? previous.number?).Compares last previous where
  last := last_of
  previous := previous_of
  isSome_delta := by
    rw [last_of, previous_of, delta_of]
    cases last.number? <;> cases previous.number? <;> simp
  delta l p hl hp := by
    rw [last_of] at hl
    rw [previous_of] at hp
    rw [delta_of, hl, hp]
    rfl
  isSome_percentage := by
    rw [last_of, previous_of, percentage_of]
    cases last.number? with
    | none => simp
    | some l =>
      cases previous.number? with
      | none => simp
      | some p => simp [isSome_ratio]
  percentage l p hl hp nonzero := by
    rw [last_of] at hl
    rw [previous_of] at hp
    have quotient : ratio (l - p) p = some ((l - p) / p) :=
      if_neg (Bool.eq_false_iff.1 nonzero)
    rw [percentage_of, hl, hp, Option.bind_some, Option.bind_some, quotient]
    rfl

end TrendValues

/-! ## Totals

The totals that are compared are the answers of the metric over the two windows. -/

namespace Metric

variable {m : Metric} {w : Warehouse} {f g : Filter}

/-- The total of a metric over the window of a filter. It is taken from an answer, and the other
fields say what kinds of values may be found there: no text, and nothing undefined but the index of
a window without opened issues. -/
structure Total (m : Metric) (w : Warehouse) (f : Filter) (d : Datum) : Prop where
  /-- It is the value of the answer. -/
  answered : ∃ a, m.aggregate w f = .ok a ∧ a.scalar? m.id = some d
  /-- It is undefined only as the index of a window in which nothing was opened. -/
  null : d = .null ↔ m = .backlog ∧ Count.opened.total w f = 0
  /-- Otherwise it is a number. -/
  number : d.number? = none ↔ d = .null

/-- Without a dimension to break it down, a metric has a total. This is the only place where the
index is treated apart. -/
theorem exists_total (hf : f.group? = none) (h : m.Admitted w f) : ∃ d, m.Total w f d := by
  cases m with
  | count c =>
    obtain ⟨a, answered, scalar⟩ :=
      Count.answers_total hf ((Query.admitted_iff_of_unlimited (.inl rfl)).2 h)
    exact ⟨_, ⟨a, answered, scalar⟩, by simp, by simp [Datum.number?]⟩
  | backlog =>
    obtain ⟨closed, opened⟩ := (Backlog.accepted_iff_timeSeries (.inl rfl)).2 h
    obtain ⟨a, closedAnswer, closedTotal⟩ := Count.answers_total hf closed
    obtain ⟨b, openedAnswer, openedTotal⟩ := Count.answers_total hf opened
    refine ⟨_, ⟨_, Backlog.aggregate_eq hf closedAnswer openedAnswer closedTotal openedTotal,
      Answer.scalar?_of_get? (Backlog.get?_insert_fields .empty (fun name =>
        .scalar (Backlog.entry (.int (Count.closed.total w f)) (.int (Count.opened.total w f))
          name)) List.mem_cons_self)⟩, ?_, ?_⟩
    · exact (Backlog.index_eq_null_iff _ _).trans ⟨fun h => ⟨rfl, h⟩, And.right⟩
    · show (Backlog.index _ _).number? = none ↔ Backlog.index _ _ = .null
      rw [Backlog.index]
      cases (ratio _ _).map (· * 100) <;> simp [Datum.ofNumber?, Datum.number?]

/-! ## What is not read

A filter has a window, a period and a limit, and a trend has no use for any of them. -/

/-- A total does not depend on how the window is cut and on how many items are listed. -/
theorem aggregate_unread (hf : f.group? = none) (period : Period) (limit : Option Nat) :
    m.aggregate w { f with period, limit } = m.aggregate w f := by
  have ungrouped : { f with period, limit }.group? = none := hf
  have counts : ∀ c : Count, c.aggregate w { f with period, limit } = c.aggregate w f := by
    intro c
    simp only [Count.aggregate, hf, ungrouped]
    rfl
  cases m with
  | count c => exact counts c
  | backlog => simp only [aggregate, Backlog.aggregate, hf, ungrouped, counts]

/-- **The window of a filter is not read by a trend**, nor how it is cut and how much is listed.
Both windows are put in place of the filter's own before anything is asked. -/
theorem trend_window (hf : f.group? = none) {start stop : Date} (ordered : start < stop)
    (period : Period) (limit : Option Nat) (anchor : Date) (days : Nat) :
    m.trend w { f with start, stop, start_lt_stop := ordered, period, limit } anchor days
      = m.trend w f anchor days := by
  refine Trend.compute_congr rfl fun _ first last f' g' hf' hg' => ?_
  obtain ⟨_, rfl⟩ := Filter.withWindow_eq_ok_iff.1 hf'
  obtain ⟨_, rfl⟩ := Filter.withWindow_eq_ok_iff.1 hg'
  exact aggregate_unread (f := { f with start := first, stop := last, start_lt_stop := _ }) hf
    period limit

/-! ## The theorem -/

/-- **A trend compares two totals.** It fails as a filter does when it has no day or reaches back
before the calendar. Otherwise it compares the totals over the two windows, as far as the database
accepts their statements. Of the filter it reads neither the window nor its period or limit.

The windows are found by their days and not by a computation with dates that might fail: the first
day of each is any date of the calendar that lies so many days before the anchor, and the failure is
the case that there is none. The two totals are those that the metric answers over these windows, so
that a trend says nothing that could not be asked for in two questions. In every case exactly one of
the outcomes is claimed. -/
theorem trend_of_totals (m : Metric) (w : Warehouse) {f : Filter} (hf : f.group? = none)
    (anchor : Date) (days : Nat) :
    (days = 0 ∨ (∀ d : Date, d.day ≠ anchor.day - days) ∨
        (∀ d : Date, d.day ≠ anchor.day - 2 * days) →
      ∃ fault, m.trend w f anchor days = .error (.filter fault)) ∧
    (∀ middle first : Date, days ≠ 0 → middle.day = anchor.day - days →
        first.day = anchor.day - 2 * days →
      ∃ recent earlier, f.withWindow middle anchor = .ok recent ∧
        f.withWindow first middle = .ok earlier ∧
        (m.Admitted w f → ∃ last previous values, m.Total w recent last ∧
          m.Total w earlier previous ∧
          m.trend w f anchor days = .ok ⟨m.id, days, anchor, .total values⟩ ∧
          values.Compares last previous) ∧
        (¬ m.Admitted w f → ∃ fault, m.trend w f anchor days = .error (.database fault))) ∧
    ∀ start stop (ordered : start < stop) period limit,
      m.trend w { f with start, stop, start_lt_stop := ordered, period, limit } anchor days
        = m.trend w f anchor days := by
  refine ⟨fun none => ?_, fun middle first some_day hm hf' => ?_, fun start stop ordered period
    limit => trend_window hf ordered period limit anchor days⟩
  · -- if the earlier window begins in the calendar, then so does the recent one, and there is a day
    -- in each
    have nowhere : ¬ Trend.HasWindows anchor days := by
      rintro ⟨pos, first, day⟩
      obtain ⟨middle, _, _, hm, _⟩ := Trend.exists_windows f pos day
      rcases none with zero | outside | outside
      · omega
      · exact outside middle hm
      · exact outside first day
    obtain ⟨fault, failed⟩ := Trend.exists_failure nowhere
    exact ⟨fault, failed _ _ _⟩
  · have pos : 1 ≤ days := Nat.one_le_iff_ne_zero.2 some_day
    obtain ⟨recent, hr⟩ := f.exists_withWindow (show middle.day < anchor.day by omega)
    obtain ⟨earlier, he⟩ := f.exists_withWindow (show first.day < middle.day by omega)
    refine ⟨recent, earlier, hr, he, fun h => ?_, fun h =>
      (m.failsUnlessAccepted w hf).trend h anchor days ⟨pos, first, hf'⟩⟩
    obtain ⟨last, total⟩ :=
      exists_total ((Filter.group?_withWindow hr).trans hf) ((admitted_withWindow_iff hr).2 h)
    obtain ⟨previous, total'⟩ :=
      exists_total ((Filter.group?_withWindow he).trans hf) ((admitted_withWindow_iff he).2 h)
    refine ⟨last, previous, _, total, total', ?_, TrendValues.compares_of last previous⟩
    obtain ⟨a, answered, scalar⟩ := total.answered
    obtain ⟨b, answered', scalar'⟩ := total'.answered
    have computed : m.trend w f anchor days = _ :=
      Trend.compute_eq pos hm (show first.day = middle.day - days by omega) hr he
    rw [computed]
    simp only [answered, answered', hf, Trend.scopeOf, Trend.scalarOf, scalar, scalar', bind,
      Except.bind, pure, Except.pure]

/-- In the week up to the fourth of January 2025 an issue was opened in a tracker, and none in the
week before. So there is a recent index without an earlier one and without a difference. A trend
over no day is none. -/
theorem trend_of_totals_twoTrackers :
    (∃ last values,
      backlog.trend .twoTrackers (Filter.turnOfYear.only .repository "t") Filter.turnOfYear.stop 7
        = .ok ⟨"bmi", 7, Filter.turnOfYear.stop, .total values⟩ ∧
      values.Compares last .null ∧ last ≠ .null ∧ values.delta = none) ∧
    ∃ fault, backlog.trend .twoTrackers (Filter.turnOfYear.only .repository "t")
      Filter.turnOfYear.stop 0 = .error (.filter fault) := by
  have ungrouped : (Filter.turnOfYear.only .repository "t").group? = none := rfl
  obtain ⟨recent, earlier, hr, he, answered, _⟩ :=
    (trend_of_totals .backlog .twoTrackers ungrouped Filter.turnOfYear.stop 7).2.1
      ⟨20085, by decide, by decide⟩ ⟨20078, by decide, by decide⟩ (by decide) rfl rfl
  obtain ⟨last, previous, values, total, total', trend, compares⟩ := answered (by
    show (Count.closed.query _ _ _).Admitted _ ∧ (Count.opened.query _ _ _).Admitted _
    decide)
  have opened : Count.opened.total .twoTrackers recent = 1 := by
    obtain ⟨_, rfl⟩ := Filter.withWindow_eq_ok_iff.1 hr
    cbv
  have none_opened : Count.opened.total .twoTrackers earlier = 0 := by
    obtain ⟨_, rfl⟩ := Filter.withWindow_eq_ok_iff.1 he
    cbv
  obtain rfl : previous = .null := total'.null.2 ⟨rfl, none_opened⟩
  have defined : last ≠ .null := fun undefined =>
    absurd (opened.symm.trans (total.null.1 undefined).2) Nat.one_ne_zero
  have no_difference : values.delta = none := by
    rw [← Option.not_isSome_iff_eq_none, compares.isSome_delta, compares.previous]
    exact fun both => Bool.noConfusion both.2
  exact ⟨⟨last, values, trend, compares, defined, no_difference⟩,
    (trend_of_totals .backlog .twoTrackers ungrouped Filter.turnOfYear.stop 0).1 (.inl rfl)⟩

/-! ## Conditions too deep

The windows of a trend may exist and its statements still be refused, for a reason that has nothing
to do with them. -/

/-- **A trend may have windows and still be refused.** The commits of a thousand repositories have
no trend over the weeks before February 2025, even in an empty warehouse. -/
theorem deep_trend_refused :
    Warehouse.empty.Reachable ∧ (Filter.inRepositories 1000).group? = none ∧
    Trend.HasWindows ⟨20120, by decide, by decide⟩ 7 ∧
    (∃ fault, (count .commits).trend .empty (.inRepositories 1000) ⟨20120, by decide, by decide⟩ 7
      = .error (.database fault)) ∧
    ¬ ∃ trend, (count .commits).trend .empty (.inRepositories 1000)
      ⟨20120, by decide, by decide⟩ 7 = .ok trend := by
  have ungrouped : (Filter.inRepositories 1000).group? = none := rfl
  have windows : Trend.HasWindows ⟨20120, by decide, by decide⟩ 7 :=
    ⟨by decide, ⟨20106, by decide, by decide⟩, rfl⟩
  have deep : ¬ (count .commits).Admitted .empty (.inRepositories 1000) :=
    Count.not_admitted_inRepositories .empty (Nat.le_refl _)
  obtain ⟨fault, failed⟩ :=
    ((count .commits).failsUnlessAccepted .empty ungrouped).trend deep _ _ windows
  refine ⟨⟨[], rfl⟩, ungrouped, windows, ⟨fault, failed⟩, ?_⟩
  rintro ⟨trend, answered⟩
  rw [failed] at answered
  cases answered

end Metric

end ActivityMetrics
