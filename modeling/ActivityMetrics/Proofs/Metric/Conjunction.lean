import ActivityMetrics.Proofs.Metric.Backlog
import ActivityMetrics.Proofs.Metric.Events
import ActivityMetrics.Proofs.Metric.Rows
import ActivityMetrics.Proofs.Metric.Trend

/-!
# Bound dimensions are a conjunction

A filter is rearranged when the pairs that it binds stand in another order, when one of them is
repeated, or when one is moved to the slot of the global dimension (`Filter.Rearranged`). The
statements of a rearranged filter are different ones, but they have the same matches, and the rows
of a query depend on nothing else. So all answers of all metrics are the same, up to the order of
items, wherever the database accepts the statements (`Metric.sameAnswers_of_rearranged`). Those of
the index are accepted whenever that of what was closed is, which takes one link and one condition
more than the other (`Backlog.admitted_opened`).

The proof has two halves that know nothing of each other. The first is about filters: each way to
rearrange keeps the set of pairs, the window, the exclusions and the layout, and this is collected
in `Filter.Restates`, which has no trace of how one filter came from the other. The second is about
answers: everything a metric computes from a filter is computed from the matches of its queries, and
filters that restate each other have the same. The relation between the halves is symmetric and
transitive, so that any number of steps in any direction is one.

What is accepted may change with the order. A project takes a subquery, which is deeper than a
comparison, and every condition that stands behind it is joined above it. So a thousand levels may
be enough for a conjunction with a project at its end, and not for the same conjunction with the
project in front (`Count.project_in_front_refused`). This is why agreement has the acceptance of
both filters as its condition, and why a filter that is not accepted is said to fail, and not to
answer in another way.
-/

namespace ActivityMetrics

open Calendar

/-! ## Rearranging a filter -/

namespace Filter

variable {f g h : Filter}

/-- A filter is rearranged into another one by some moves of the pairs that it binds. A pair of the
global slot is moved back by `symm`, and a repeated one is dropped by it. A filter that groups by
all items of a dimension is never rearranged, as it has no pairs of a selection. -/
inductive Rearranged : Filter → Filter → Prop
  /-- The pairs of a selection are put in another order. -/
  | permuted (f : Filter) {ps qs : List (Dimension × String)} (perm : ps.Perm qs) :
      Rearranged { f with selection := .bound ps } { f with selection := .bound qs }
  /-- A pair of a selection is repeated. -/
  | repeated (f : Filter) {ps : List (Dimension × String)} {b : Dimension × String}
      (there : b ∈ ps) :
      Rearranged { f with selection := .bound ps } { f with selection := .bound (b :: ps) }
  /-- A pair of a selection becomes the global one. -/
  | moved (f : Filter) (b : Dimension × String) (ps : List (Dimension × String)) :
      Rearranged { f with selection := .bound (b :: ps), global := none }
        { f with selection := .bound ps, global := some b }
  /-- Moves are taken back. -/
  | symm {f g : Filter} : Rearranged f g → Rearranged g f
  /-- Moves follow each other. -/
  | trans {f g h : Filter} : Rearranged f g → Rearranged g h → Rearranged f h

/-- Two ungrouped filters ask for the same: they restrict activity alike and lay out their answers
alike. This is all of a rearrangement that an answer can depend on. -/
structure Restates (g f : Filter) : Prop extends RestrictsAs g f where
  /-- Series are cut alike. -/
  period : g.period = f.period
  /-- Rankings are cut alike. -/
  limit : g.limit = f.limit
  /-- The first filter is not broken down. -/
  ungrouped : g.group? = none
  /-- The second filter is not broken down. -/
  ungrouped' : f.group? = none

/-- To ask for the same is symmetric. -/
theorem Restates.symm (r : g.Restates f) : f.Restates g :=
  ⟨r.toRestrictsAs.symm, r.period.symm, r.limit.symm, r.ungrouped', r.ungrouped⟩

/-- To ask for the same is transitive. -/
theorem Restates.trans (r : h.Restates g) (r' : g.Restates f) : h.Restates f where
  start := r.start.trans r'.start
  stop := r.stop.trans r'.stop
  actors := r.actors.trans r'.actors
  organizations := r.organizations.trans r'.organizations
  closing := r.closing.trans r'.closing
  bindings b := (r.bindings b).trans (r'.bindings b)
  period := r.period.trans r'.period
  limit := r.limit.trans r'.limit
  ungrouped := r.ungrouped
  ungrouped' := r'.ungrouped'

/-- Filters over another window ask for the same if they did before. A trend asks over two windows
that neither filter has. -/
theorem Restates.withWindow {start stop : Date} {f' g' : Filter} (r : g.Restates f)
    (hf : f.withWindow start stop = .ok f') (hg : g.withWindow start stop = .ok g') :
    g'.Restates f' := by
  obtain ⟨_, rfl⟩ := withWindow_eq_ok_iff.1 hf
  obtain ⟨_, rfl⟩ := withWindow_eq_ok_iff.1 hg
  exact ⟨⟨⟨rfl, rfl, r.actors, r.organizations, r.closing⟩, r.bindings⟩, r.period, r.limit,
    r.ungrouped, r.ungrouped'⟩

/-- **A rearranged filter asks for the same.** Each move keeps the set of pairs. -/
theorem Rearranged.restates (r : f.Rearranged g) : g.Restates f := by
  induction r with
  | permuted f perm =>
    exact ⟨⟨⟨rfl, rfl, rfl, rfl, rfl⟩, fun b => (perm.symm.append_right _).mem_iff⟩, rfl, rfl, rfl,
      rfl⟩
  | @repeated f ps b there =>
    refine ⟨⟨⟨rfl, rfl, rfl, rfl, rfl⟩, fun c => ?_⟩, rfl, rfl, rfl, rfl⟩
    -- a pair is bound if the selection or the global slot has it; to repeat one that is there adds
    -- none
    show c ∈ b :: ps ++ f.global.toList ↔ c ∈ ps ++ f.global.toList
    rw [List.cons_append, List.mem_cons, or_iff_right_of_imp]
    rintro rfl
    exact List.mem_append_left _ there
  | moved f b ps =>
    refine ⟨⟨⟨rfl, rfl, rfl, rfl, rfl⟩, fun c => ?_⟩, rfl, rfl, rfl, rfl⟩
    -- the pair leaves the front of the selection for the global slot, which is read behind it
    show c ∈ ps ++ [b] ↔ c ∈ b :: ps ++ []
    rw [List.append_nil]
    exact (List.perm_append_singleton b ps).mem_iff
  | symm _ ih => exact ih.symm
  | trans _ _ ih ih' => exact ih'.trans ih

end Filter

/-! ## Counting metrics

The queries of two filters that ask for the same have the same matches. Everything that a counting
metric answers is computed from rows, and rows from matches. -/

namespace Count

variable {c : Count} {w : Warehouse} {f g : Filter}

/-- **Filters that ask for the same have the same rows**, if both statements are accepted. The rows
come in the same order as well: they are sorted by what they show, and the order of the matches is
lost in this. -/
theorem run_congr (r : g.Restates f) {group : Option Dimension} {limit : Option Nat} {mode : Mode}
    (hf : Query.Admitted { c.query w f group with limit } mode)
    (hg : Query.Admitted { c.query w g group with limit } mode) :
    Query.run { c.query w g group with limit } w mode
      = Query.run { c.query w f group with limit } w mode := by
  have same := definition_congr r.closing c
  have matchesIn : ∀ m, m ∈ Query.matchesIn { c.query w g group with limit } w ↔
      m ∈ Query.matchesIn { c.query w f group with limit } w := fun m =>
    mem_matchesIn_iff_of_restrictsAs r.toRestrictsAs
  have rows : ∀ key, Query.rows { c.query w g group with limit } w mode key
      = Query.rows { c.query w f group with limit } w mode key := fun key =>
    Query.rows_congr (congrArg (·.name) same) (congrArg (·.counted) same) r.period rfl
      (.of_mem_iff matchesIn)
  cases hk : Query.key? { c.query w f group with limit } with
  | error e =>
    have hk' : Query.key? { c.query w g group with limit } = .error e := hk
    simp only [Query.run, hk, hk', bind, Except.bind]
  | ok key =>
    have hk' : Query.key? { c.query w g group with limit } = .ok key := hk
    rw [Query.run_of_admitted hk hf, Query.run_of_admitted hk' hg, rows]

/-- The breakdowns of filters that ask for the same are the same, with the same limit. -/
theorem breakdown_congr (r : g.Restates f) {d : Dimension} {limit : Option Nat}
    (hf : (c.breakdownQuery w f d limit).Admitted .aggregate)
    (hg : (c.breakdownQuery w g d limit).Admitted .aggregate) :
    c.breakdown w g d limit = c.breakdown w f d limit := by
  rw [breakdown, run_congr r hf hg, breakdown]

/-- The query as it is asked has the limit of the filter, and gives the same rows likewise. -/
theorem run_query_congr (r : g.Restates f) {mode : Mode}
    (hf : (c.query w f none).Admitted .timeSeries) (hg : (c.query w g none).Admitted .timeSeries) :
    (c.query w g none).run w mode = (c.query w f none).run w mode := by
  have accepted : ∀ {h : Filter}, (c.query w h none).Admitted .timeSeries →
      Query.Admitted { c.query w h none with limit := h.limit } mode := by
    intro h accepted
    cases mode with
    | aggregate => exact (Query.admitted_iff_of_unlimited (.inl rfl)).2 accepted
    | timeSeries => exact accepted
  have hg' := accepted hg
  show Query.run { c.query w g none with limit := g.limit } w mode
    = Query.run { c.query w f none with limit := f.limit } w mode
  rw [r.limit] at hg' ⊢
  exact run_congr r (accepted hf) hg'

/-- The totals of filters that ask for the same are the same. -/
theorem aggregate_congr (r : g.Restates f) (hf : (c.query w f none).Admitted .timeSeries)
    (hg : (c.query w g none).Admitted .timeSeries) : c.aggregate w g = c.aggregate w f := by
  simp only [aggregate, r.ungrouped, r.ungrouped', run_query_congr r hf hg]

/-- The series are the same as well, since their buckets depend on the window and the period
alone. -/
theorem series_congr (r : g.Restates f) (hf : (c.query w f none).Admitted .timeSeries)
    (hg : (c.query w g none).Admitted .timeSeries) : c.series w g = c.series w f := by
  simp only [series, r.ungrouped, r.ungrouped', run_query_congr r hf hg, r.period, r.start, r.stop]

end Count

/-! ## The index of the backlog

The index is composed of two metrics, whose statements may be accepted separately. What is shown
first is that only one of them has to be looked at. -/

namespace Backlog

variable {w : Warehouse} {f g : Filter}

/-- **What was closed takes one link and one condition more than what was opened.** Both are written
first, before what the filter adds, and the filter adds neither of them again. -/
theorem clauses_closed (w : Warehouse) (f : Filter) (group : Option Dimension) :
    (Count.closed.query w f group).clauses
      = ⟨.issue :: (Count.opened.query w f group).clauses.joins,
        .closes f.closingCondition :: (Count.opened.query w f group).clauses.predicates⟩ := by
  have link := f.issue_not_mem_joins_clauses w .its
  have condition : .closes f.closingCondition ∉ (f.clauses w .its).predicates := by
    rw [Filter.mem_predicates_clauses]
    rintro (⟨⟨d, v⟩, _, same⟩ | excluded)
    · cases d <;> cases same
    · rcases Filter.eq_of_mem_exclusions excluded with same | same <;> cases same
  have restricted : (Count.closing f).merge (f.clauses w .its)
      = ⟨.issue :: (Fragments.empty.merge (f.clauses w .its)).joins,
        .closes f.closingCondition :: (Fragments.empty.merge (f.clauses w .its)).predicates⟩ := by
    show (⟨keepFirsts [_] _, keepFirsts [_] _⟩ : Clauses) = _
    rw [keepFirsts_cons link, keepFirsts_cons condition]
    rfl
  cases group with
  | none => exact restricted
  | some d =>
    have own : .issue ∉ (d.clauses .its).joins := by
      rw [Dimension.mem_joins_clauses]
      exact d.issue_not_mem_links .its
    show ((Count.closing f).merge (f.clauses w .its)).merge (d.clauses .its) = _
    rw [restricted]
    show (⟨keepFirsts (_ :: _) _, keepFirsts (_ :: _) []⟩ : Clauses) = _
    rw [keepFirsts_cons own]
    rfl

/-- **The statement of what was opened is accepted if that of what was closed is.** It has fewer
marks and no more levels. The converse fails, and so the index may be refused where what was opened
is not. -/
theorem admitted_opened {group : Option Dimension} {limit : Option Nat} {mode : Mode}
    (h : Query.Admitted { Count.closed.query w f group with limit } mode) :
    Query.Admitted { Count.opened.query w f group with limit } mode := by
  have clauses : Query.clauses { Count.closed.query w f group with limit } = _ :=
    clauses_closed w f group
  have marks : Condition.marks .issues = Condition.marks .changes :=
    funext fun p => p.marks_event .issues .changes
  obtain ⟨few, flat⟩ := h
  rw [clauses] at few flat
  refine ⟨?_, Nat.le_trans (Clauses.reach_le_cons .issue rfl _) flat⟩
  refine Nat.le_trans ?_ few
  show Limits.marksOf .issues (Count.opened.query w f group).clauses _
    ≤ Limits.marksOf .changes ⟨_, _ :: (Count.opened.query w f group).clauses.predicates⟩ _
  rw [Limits.marksOf, Limits.marksOf, marks, List.map_cons, List.sum_cons]
  refine Nat.add_le_add (Nat.add_le_add_left (Nat.le_add_left _ _) _) (Nat.le_refl _)

/-- The index is the same for filters that ask for the same. -/
theorem aggregate_congr (r : g.Restates f) (hf : Metric.backlog.Admitted w f)
    (hg : Metric.backlog.Admitted w g) : aggregate w g = aggregate w f := by
  simp only [aggregate, r.ungrouped, r.ungrouped', Count.aggregate_congr r hf.1 hg.1,
    Count.aggregate_congr r hf.2 hg.2]

/-- The index of every bucket is the same for filters that ask for the same. -/
theorem series_congr (r : g.Restates f) (hf : Metric.backlog.Admitted w f)
    (hg : Metric.backlog.Admitted w g) : series w g = series w f := by
  simp only [series, r.ungrouped, r.ungrouped', Count.series_congr r hf.1 hg.1,
    Count.series_congr r hf.2 hg.2]

/-- The index of every item is the same for filters that ask for the same, and so is the choice of
the items. -/
theorem breakdown_congr (r : g.Restates f) {d : Dimension} {limit : Option Nat}
    (hf : BreakdownAccepted w f d) (hg : BreakdownAccepted w g d) :
    breakdown w g d limit = breakdown w f d limit := by
  simp only [breakdown, Count.breakdown_congr r hf.1 hg.1, Count.breakdown_congr r hf.2 hg.2]

/-- Where the index is not accepted, it is what was closed that is refused. -/
theorem not_admitted_closed (h : ¬ Metric.backlog.Admitted w f) :
    ¬ (Count.closed.query w f none).Admitted .timeSeries :=
  fun closed => h ⟨closed, admitted_opened closed⟩

end Backlog

/-! ## Trends

A trend takes the answers over two windows before the anchor. Whether the windows exist does not
depend on the filter, and so a trend without them fails in the same way for both. -/

namespace Trend

/-- Both windows of a trend exist. There is at least one day in each, and the earlier one begins
within the calendar. -/
def HasWindows (anchor : Date) (days : Nat) : Prop :=
  1 ≤ days ∧ ∃ first : Date, first.day = anchor.day - 2 * days

/-- Without its windows a trend fails, whatever it is about. -/
theorem exists_failure {anchor : Date} {days : Nat} (h : ¬ HasWindows anchor days) :
    ∃ failure, ∀ metric answer f,
      compute metric answer f anchor days = .error (.filter failure) := by
  by_cases empty : days = 0
  · refine ⟨.emptyTrend, fun metric answer f => ?_⟩
    rw [compute, if_pos empty]
    rfl
  cases hm : anchor.addDays? (-days) with
  | none =>
    refine ⟨.trendTooLong days anchor, fun metric answer f => ?_⟩
    simp only [compute, if_neg empty, daysBefore, hm, bind, Except.bind]
  | some middle =>
    cases hf : middle.addDays? (-days) with
    | none =>
      refine ⟨.trendTooLong days middle, fun metric answer f => ?_⟩
      simp only [compute, if_neg empty, daysBefore, hm, hf, bind, Except.bind]
    | some first =>
      have before := Date.ofDay?_eq_some_iff.1 hm
      have long_before := Date.ofDay?_eq_some_iff.1 hf
      exact absurd ⟨by omega, first, by omega⟩ h

/-- A trend depends on the answers over its two windows only. -/
theorem compute_congr {metric : String} {answer : Filter → Outcome Answer} {f g : Filter}
    {anchor : Date} {days : Nat} (group : g.group? = f.group?)
    (same : HasWindows anchor days → ∀ start stop f' g', f.withWindow start stop = .ok f' →
      g.withWindow start stop = .ok g' → answer g' = answer f') :
    compute metric answer g anchor days = compute metric answer f anchor days := by
  by_cases h : HasWindows anchor days
  · obtain ⟨pos, first, day⟩ := id h
    obtain ⟨middle, recent, earlier, hm, hf, hr, he⟩ := exists_windows f pos day
    obtain ⟨recent', hr'⟩ := g.exists_withWindow (show middle.day < anchor.day by omega)
    obtain ⟨earlier', he'⟩ := g.exists_withWindow (show first.day < middle.day by omega)
    rw [compute_eq pos hm hf hr he, compute_eq pos hm hf hr' he', same h _ _ _ _ hr hr',
      same h _ _ _ _ he he', group]
  · -- no window, no question: the failure is the same whatever is asked
    obtain ⟨failure, failed⟩ := exists_failure h
    rw [failed, failed]

end Trend

/-! ## All metrics

What was shown of counting metrics and of the index is put together: a statement about a metric is a
statement about every question that it answers. -/

namespace Metric

variable {m : Metric} {w : Warehouse} {f g : Filter}

/-- The database accepts the statement of a ranked list. This is the statement of a breakdown, with
the limit of the list, and not that of a total. -/
def ListAdmitted (m : Metric) (w : Warehouse) (f : Filter) : Prop :=
  match m with
  | .count c => (c.breakdownQuery w f c.listDimension
      (some (f.limit.getD defaultListLimit))).Admitted .aggregate
  | .backlog => Backlog.BreakdownAccepted w f .repository

/-- A metric gives the same answers for two filters, wherever the statements of both are accepted.
The answers are equal, and so the items of a list come in the same order. -/
structure AgreesOn (m : Metric) (w : Warehouse) (f g : Filter) : Prop where
  /-- The totals are the same. -/
  aggregate : m.Admitted w f → m.Admitted w g → m.aggregate w g = m.aggregate w f
  /-- The series are the same. -/
  series : m.Admitted w f → m.Admitted w g → m.series w g = m.series w f
  /-- The ranked lists are the same. -/
  list : m.ListAdmitted w f → m.ListAdmitted w g → m.list w g = m.list w f
  /-- The trends are the same, also where there are no windows to compare. -/
  trend : ∀ anchor days, (Trend.HasWindows anchor days → m.Admitted w f ∧ m.Admitted w g) →
    m.trend w g anchor days = m.trend w f anchor days

/-- A metric fails in the database for a filter whose statements are not accepted. Together with
agreement this leaves no case open: an answer is the same as another, or there is no answer and the
database said why. -/
structure FailsUnlessAccepted (m : Metric) (w : Warehouse) (f : Filter) : Prop where
  /-- There is no total. -/
  aggregate : ¬ m.Admitted w f → ∃ fault, m.aggregate w f = .error (.database fault)
  /-- There is no series. -/
  series : ¬ m.Admitted w f → ∃ fault, m.series w f = .error (.database fault)
  /-- There is no ranked list. -/
  list : ¬ m.ListAdmitted w f → ∃ fault, m.list w f = .error (.database fault)
  /-- There is no trend. -/
  trend : ¬ m.Admitted w f → ∀ anchor days, Trend.HasWindows anchor days →
    ∃ fault, m.trend w f anchor days = .error (.database fault)

/-- The window of a filter does not matter for what is accepted. A date is a mark like any other. -/
theorem admitted_withWindow_iff {start stop : Date} (h : f.withWindow start stop = .ok g) :
    m.Admitted w g ↔ m.Admitted w f := by
  cases m with
  | count c => exact Count.admitted_withWindow_iff h
  | backlog => exact and_congr (Count.admitted_withWindow_iff h) (Count.admitted_withWindow_iff h)

/-- The total of any metric is the same for filters that ask for the same. -/
theorem aggregate_congr (r : g.Restates f) (hf : m.Admitted w f) (hg : m.Admitted w g) :
    m.aggregate w g = m.aggregate w f := by
  cases m with
  | count c => exact Count.aggregate_congr r hf hg
  | backlog => exact Backlog.aggregate_congr r hf hg

/-- Filters that ask for the same have the same answers. Each kind of answer is traced back to the
queries that it takes. -/
theorem agreesOn_of_restates (r : g.Restates f) : m.AgreesOn w f g where
  aggregate := aggregate_congr r
  series hf hg := by
    cases m with
    | count c => exact Count.series_congr r hf hg
    | backlog => exact Backlog.series_congr r hf hg
  list hf hg := by
    cases m with
    | count c =>
      have hg' := hg
      simp only [ListAdmitted, r.limit] at hg'
      simp only [list, Count.list, r.ungrouped, r.ungrouped', r.limit, Option.getD_none]
      exact Count.breakdown_congr r hf hg'
    | backlog =>
      simp only [list, Backlog.list, r.ungrouped, r.ungrouped', r.limit, Option.getD_none]
      exact Backlog.breakdown_congr r hf hg
  trend anchor days accepted := by
    refine Trend.compute_congr (r.ungrouped.trans r.ungrouped'.symm)
      fun h start stop f' g' hf hg => ?_
    exact aggregate_congr (r.withWindow hf hg) ((admitted_withWindow_iff hf).2 (accepted h).1)
      ((admitted_withWindow_iff hg).2 (accepted h).2)

/-- There is no total where the statement is not accepted. -/
theorem aggregate_refused (hg : f.group? = none) (h : ¬ m.Admitted w f) :
    ∃ fault, m.aggregate w f = .error (.database fault) := by
  cases m with
  | count c =>
    exact Count.aggregate_refused hg fun h' => h ((Query.admitted_iff_of_unlimited (.inl rfl)).1 h')
  | backlog =>
    exact Backlog.aggregate_refused hg fun h' =>
      h ((Backlog.accepted_iff_timeSeries (.inl rfl)).1 h')

/-- No other question is answered either, as each begins with a statement that is not accepted. A
ranked list has a statement of its own, and a condition of its own for this reason. -/
theorem failsUnlessAccepted (m : Metric) (w : Warehouse) (hg : f.group? = none) :
    m.FailsUnlessAccepted w f where
  aggregate := aggregate_refused hg
  series h := by
    cases m with
    | count c => exact Count.series_refused hg rfl h
    | backlog =>
      exact Backlog.series_refused hg h fun closed => absurd closed (Backlog.not_admitted_closed h)
  list h := by
    cases m with
    | count c =>
      have keyed : ∃ key, c.listDimension.key? c.source = some key :=
        Dimension.exists_key? (by cases c <;> decide) _
      obtain ⟨key, hk⟩ := keyed
      simp only [list, Count.list, hg, Option.getD_none]
      exact Count.breakdown_refused hk h
    | backlog =>
      simp only [list, Backlog.list, hg, Option.getD_none]
      exact Backlog.breakdown_refused rfl h _
  trend h anchor days windows := by
    obtain ⟨pos, first, day⟩ := windows
    obtain ⟨middle, recent, earlier, hm, hf, hr, he⟩ := Trend.exists_windows f pos day
    exact Trend.compute_refused pos hm hf hr he (aggregate_refused
      ((Filter.group?_withWindow hr).trans hg) fun accepted =>
        h ((admitted_withWindow_iff hr).1 accepted))

/-- **The order, repetition and slot of bound pairs do not matter.** For a rearranged filter every
metric gives the same answers as before, with the items of a list in the same order, wherever the
database accepts the statements of both filters. Statements that it does not accept fail there.

No condition is put on the warehouse or on the pairs. In particular a dimension may be bound to two
different values; then nothing is selected, and nothing is selected in whatever order they stand. -/
theorem sameAnswers_of_rearranged (m : Metric) (w : Warehouse) {f g : Filter}
    (h : f.Rearranged g) :
    m.AgreesOn w f g ∧ m.FailsUnlessAccepted w f ∧ m.FailsUnlessAccepted w g :=
  ⟨agreesOn_of_restates h.restates, m.failsUnlessAccepted w h.restates.ungrouped',
    m.failsUnlessAccepted w h.restates.ungrouped⟩

end Metric

/-- The days around a new year, bound to a repository and to a company. -/
def Filter.coreAndGuild : Filter :=
  { newYear (.bound [(.repository, "core"), (.company, "guild")]) with global := none }

/-- The same days with the company bound twice, and the repository as the global dimension. -/
def Filter.guildTwiceInCore : Filter :=
  newYear (.bound [(.company, "guild"), (.company, "guild")])

/-- The commit of New Year's Day is counted by both filters, in all answers alike. -/
theorem Metric.sameAnswers_of_rearranged_newYear :
    Filter.coreAndGuild.Rearranged .guildTwiceInCore ∧
    Count.commits.Answers .newYear .coreAndGuild 1 ∧
    (count .commits).aggregate .newYear .guildTwiceInCore
      = (count .commits).aggregate .newYear .coreAndGuild ∧
    (count .commits).series .newYear .guildTwiceInCore
      = (count .commits).series .newYear .coreAndGuild ∧
    (count .commits).list .newYear .guildTwiceInCore
      = (count .commits).list .newYear .coreAndGuild ∧
    ∀ anchor days, (count .commits).trend .newYear .guildTwiceInCore anchor days
      = (count .commits).trend .newYear .coreAndGuild anchor days := by
  have rearranged : Filter.coreAndGuild.Rearranged .guildTwiceInCore :=
    .trans (.moved Filter.coreAndGuild (.repository, "core") [(.company, "guild")])
      (.repeated Filter.guildTwiceInCore List.mem_cons_self)
  have accepted : (count .commits).Admitted .newYear .coreAndGuild ∧
      (count .commits).Admitted .newYear .guildTwiceInCore :=
    ⟨show (Count.commits.query _ _ _).Admitted _ by decide,
      show (Count.commits.query _ _ _).Admitted _ by decide⟩
  have listed : (Count.commits.breakdownQuery .newYear .coreAndGuild .repository
        (some defaultListLimit)).Admitted .aggregate ∧
      (Count.commits.breakdownQuery .newYear .guildTwiceInCore .repository
        (some defaultListLimit)).Admitted .aggregate := by
    decide
  have one : Count.commits.total .newYear .coreAndGuild = 1 := by decide
  obtain ⟨agrees, _⟩ := (count .commits).sameAnswers_of_rearranged .newYear rearranged
  refine ⟨rearranged, ?_, agrees.aggregate accepted.1 accepted.2,
    agrees.series accepted.1 accepted.2, agrees.list listed.1 listed.2,
    fun anchor days => agrees.trend anchor days fun _ => accepted⟩
  exact one ▸ Count.answers_total rfl ((Query.admitted_iff_of_unlimited (.inl rfl)).2 accepted.1)

/-! ## Levels depend on the order

The database limits how deep an expression may be nested, and a conjunction of conditions is nested
to the left: the first condition lies deepest. This is enough for the order of pairs to decide
whether a statement is accepted. -/

/-- A number of repositories that have to match. They have different names, so that each is a
condition. -/
def repositoryPairs (n : Nat) : List (Dimension × String) :=
  (List.range n).map fun i => (.repository, Text.padded 4 i)

/-- January 2025, bound to a project and then to a number of repositories. -/
def Filter.projectFirst (n : Nat) : Filter :=
  january (.bound ((.project, "suite") :: repositoryPairs n))

/-- January 2025, bound to a number of repositories and then to a project. -/
def Filter.projectLast (n : Nat) : Filter :=
  january (.bound (repositoryPairs n ++ [(.project, "suite")]))

/-- The two filters are rearranged into one another: the project is moved from the end to the
front. -/
theorem Filter.rearranged_projectLast (n : Nat) : (projectLast n).Rearranged (projectFirst n) :=
  .permuted (january (.bound [])) (List.perm_append_singleton _ _)

namespace Count

variable (w : Warehouse) (n : Nat)

/-- Different pairs are one condition each, in the order of the pairs. -/
theorem predicates_january_bound {ps : List (Dimension × String)}
    (nodup : (ps.map fun b => b.1.condition w .scm b.2).Nodup) :
    (commits.query w (.january (.bound ps)) none).clauses.predicates
      = ps.map fun b => b.1.condition w .scm b.2 := by
  have bindings : (Filter.january (.bound ps)).bindings = ps := List.append_nil ps
  have merged : ((Filter.january (.bound ps)).clauses w .scm).predicates
      = keepFirsts [] (ps.map fun b => b.1.condition w .scm b.2) := by
    rw [Filter.clauses, Fragments.predicates_foldl_merge, bindings]
    show keepFirsts [] ((_ ++ []).flatMap _) = _
    rw [List.append_nil, List.flatMap_map, List.map_eq_flatMap]
    rfl
  show keepFirsts [] ((Filter.january (.bound ps)).clauses w .scm).predicates = _
  simp only [merged, ← eraseDups_eq_keepFirsts, eraseDups_eq_self nodup]

/-- The conditions of the repositories. Each is one comparison with one mark. -/
def repositoryConditions (n : Nat) : List Condition :=
  (List.range n).map fun i => .repositoryIs .scm (Text.padded 4 i)

/-- They are what the pairs ask for. -/
theorem map_condition_repositoryPairs :
    (repositoryPairs n).map (fun b => b.1.condition w .scm b.2) = repositoryConditions n :=
  List.map_map

/-- A comparison has the depth of a comparison, no subquery, and one mark. -/
theorem single_of_mem_repositoryConditions {p : Condition} (h : p ∈ repositoryConditions n) :
    p.depth = Limits.comparisonDepth ∧ p.innerReach? = none ∧ p.marks .commits = 1 := by
  obtain ⟨i, _, rfl⟩ := List.mem_map.1 h
  exact ⟨rfl, rfl, rfl⟩

/-- No two of all these conditions are the same, so that none is dropped when they are merged. -/
theorem nodup_conditions :
    (.inProjects .scm (w.projectTree "suite") :: repositoryConditions n).Nodup := by
  refine List.nodup_cons.2 ⟨fun there => ?_, ?_⟩
  · obtain ⟨i, _, same⟩ := List.mem_map.1 there
    cases same
  · refine List.pairwise_map.2 (List.nodup_range.imp fun different same => different ?_)
    exact Text.padded_injective 4 (Condition.repositoryIs.inj same).2

/-- The conditions in the order of the pairs, with the project first. -/
theorem predicates_projectFirst :
    (commits.query w (.projectFirst n) none).clauses.predicates
      = .inProjects .scm (w.projectTree "suite") :: repositoryConditions n := by
  have conditions : ((Dimension.project, "suite") :: repositoryPairs n).map
      (fun b => b.1.condition w .scm b.2)
        = .inProjects .scm (w.projectTree "suite") :: repositoryConditions n := by
    rw [List.map_cons, map_condition_repositoryPairs]
    rfl
  rw [← conditions]
  exact predicates_january_bound w (conditions ▸ nodup_conditions w n)

/-- The same conditions with the project last. -/
theorem predicates_projectLast :
    (commits.query w (.projectLast n) none).clauses.predicates
      = repositoryConditions n ++ [.inProjects .scm (w.projectTree "suite")] := by
  have conditions : (repositoryPairs n ++ [(Dimension.project, "suite")]).map
      (fun b => b.1.condition w .scm b.2)
        = repositoryConditions n ++ [.inProjects .scm (w.projectTree "suite")] := by
    rw [List.map_append, map_condition_repositoryPairs]
    rfl
  rw [← conditions]
  refine predicates_january_bound w (conditions ▸ ?_)
  exact (List.perm_append_singleton _ _).nodup_iff.2 (nodup_conditions w n)

/-- The repositories need a link, which lifts everything once more. -/
theorem repository_mem_joins_projectFirst (pos : 0 < n) :
    .repository .scm ∈ (commits.query w (.projectFirst n) none).clauses.joins := by
  refine mem_joins_query.2 (.inr (.inl ⟨(.repository, Text.padded 4 0), ?_, List.mem_cons_self⟩))
  refine List.mem_append_left _ (List.mem_cons_of_mem _ ?_)
  exact List.mem_map.2 ⟨0, List.mem_range.2 pos, rfl⟩

/-- They need no other. -/
theorem joins_projectLast_subset :
    (commits.query w (.projectLast n) none).clauses.joins ⊆ [.repository .scm] := by
  intro l hl
  rcases mem_joins_query.1 hl with base | ⟨b, hb, own⟩ | ⟨_, none, _⟩
  · cases base
  · rcases List.mem_append.1 ((List.mem_append.1 hb).resolve_right List.not_mem_nil) with hb | hb
    · obtain ⟨i, _, rfl⟩ := List.mem_map.1 hb
      exact own
    · rw [List.mem_singleton.1 hb] at own
      cases own
  · cases none

/-- A project in front lifts every condition behind it. Its condition is two levels deeper than a
comparison, all that is joined to it starts from there, and so the whole is two levels deeper than
without it. -/
theorem not_admitted_projectFirst (many : 990 ≤ n) :
    ¬ (commits.query w (.projectFirst n) none).Admitted .aggregate := by
  rintro ⟨_, limit⟩
  have predicates := predicates_projectFirst w n
  -- the project lifts the window by two levels, and each repository adds one
  have window : 6 + n ≤ (commits.query w (.projectFirst n) none).clauses.predicateDepth := by
    have level := Limits.add_length_le_joinedDepth 6 ((repositoryConditions n).map Condition.depth)
    rw [List.length_map, repositoryConditions, List.length_map, List.length_range] at level
    rw [Clauses.predicateDepth, predicates]
    exact level
  have links := Limits.add_length_le_joinedDepth
    (commits.query w (.projectFirst n) none).clauses.predicateDepth
    ((commits.query w (.projectFirst n) none).clauses.joins.map Link.depth)
  have link := List.length_pos_of_mem (repository_mem_joins_projectFirst w n (by omega))
  have below := Clauses.add_innerReach_le_reach (predicates ▸ List.mem_cons_self)
    (show Condition.innerReach? (.inProjects .scm (w.projectTree "suite")) = some 4 from rfl)
  rw [List.length_map] at links
  unfold Clauses.depth at below
  unfold Limits.depth at limit
  omega

/-- With the project in front and as many repositories, the total fails in the database. -/
theorem refused_projectFirst (many : 990 ≤ n) :
    ∃ fault, (Metric.count commits).aggregate w (.projectFirst n) = .error (.database fault) :=
  aggregate_refused rfl (not_admitted_projectFirst w n many)

/-- A project at the end lifts nothing. The conditions in front of it are nested deeper than its own
by then, and it adds one level like any other. -/
theorem admitted_projectLast (alone : (w.projectTree "suite").length = 1) (few : n ≤ 990) :
    (commits.query w (.projectLast n) none).Admitted .aggregate := by
  have predicates := predicates_projectLast w n
  have length : (repositoryConditions n).length = n := by
    rw [repositoryConditions, List.length_map, List.length_range]
  constructor
  · -- the marks: one for each repository, two for the project, and those of the window
    have project : Condition.marks .commits (.inProjects .scm (w.projectTree "suite")) = 2 := by
      rw [Condition.marks_inProjects, alone]
    have sum : ((repositoryConditions n).map (Condition.marks .commits)).sum = n := by
      rw [Limits.sum_marks_of_single fun p hp => (single_of_mem_repositoryConditions n hp).2.2,
        length]
    show Limits.marksOf .commits (commits.query w (.projectLast n) none).clauses false ≤ _
    rw [Limits.marksOf, predicates, List.map_append, List.sum_append, sum, List.map_singleton,
      List.sum_singleton, project, Bool.toNat_false, Limits.marks]
    omega
  · -- the levels: first the conditions in front of the project, then the project, the link, and the
    -- subquery
    have level : ∀ e ∈ Limits.comparisonDepth :: (repositoryConditions n).map Condition.depth,
        e ≤ Limits.comparisonDepth := by
      intro e he
      rcases List.mem_cons.1 he with rfl | he
      · exact Nat.le_refl _
      · obtain ⟨p, hp, rfl⟩ := List.mem_map.1 he
        exact Nat.le_of_eq (single_of_mem_repositoryConditions n hp).1
    have window := Limits.joinedDepth_le (Nat.le_refl _) level
    rw [List.length_cons, List.length_map, length] at window
    unfold Limits.comparisonDepth Limits.columnDepth at window
    have last : (commits.query w (.projectLast n) none).clauses.predicateDepth ≤ 995 := by
      rw [Clauses.predicateDepth, predicates, List.map_append, ← List.cons_append,
        Limits.joinedDepth_append]
      show max (Limits.joinedDepth _ _) 5 + 1 ≤ 995
      unfold Limits.comparisonDepth Limits.columnDepth
      omega
    have shallow : ∀ e ∈ (commits.query w (.projectLast n) none).clauses.joins.map Link.depth,
        e ≤ 995 := by
      intro e he
      obtain ⟨l, _, rfl⟩ := List.mem_map.1 he
      exact Nat.le_trans l.depth_le (by omega)
    have links := Limits.joinedDepth_le last shallow
    have one := (nodup_joins_query _ _ _ _).length_le_of_subset (joins_projectLast_subset w n)
    rw [List.length_map] at links
    rw [List.length_singleton] at one
    have subqueries : (commits.query w (.projectLast n) none).clauses.predicates.filterMap
        Condition.innerReach? = [4] := by
      rw [predicates, List.filterMap_append, List.filterMap_eq_nil_iff.2 fun p hp =>
        (single_of_mem_repositoryConditions n hp).2.1]
      rfl
    rw [Clauses.reach, subqueries]
    show max (Clauses.depth _) (Clauses.depth _ + 4) ≤ 1000
    unfold Clauses.depth
    omega

/-- **Pairs in another order may be refused.** A project and 990 repositories are accepted with the
project at the end, and not with the project in front, even in an empty warehouse. -/
theorem project_in_front_refused :
    Warehouse.empty.Reachable ∧
    (Filter.projectLast 990).Rearranged (.projectFirst 990) ∧
    commits.Answers .empty (.projectLast 990) 0 ∧
    ∃ fault, (Metric.count commits).aggregate .empty (.projectFirst 990)
      = .error (.database fault) := by
  have alone : (Warehouse.empty.projectTree "suite").length = 1 := by cbv
  have nothing : commits.total .empty (.projectLast 990) = 0 := by
    rw [total_eq_countP Warehouse.keyed_empty (.inl rfl)]
    rfl
  refine ⟨⟨[], rfl⟩, Filter.rearranged_projectLast 990, ?_, ?_⟩
  · exact nothing ▸ answers_total rfl (admitted_projectLast .empty 990 alone (Nat.le_refl _))
  · exact refused_projectFirst .empty 990 (Nat.le_refl _)

end Count

end ActivityMetrics
