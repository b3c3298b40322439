import ActivityMetrics.Metric.Catalog
import ActivityMetrics.Proofs.Metric.Rows

/-!
# The same answers over two warehouses

The counting metrics of a source run queries, and the index is composed from two of them. If these
queries have the same rows over two warehouses, all answers are the same
(`Metric.sameAnswers_of_runs`). The query itself depends on the warehouse only where a project is
bound, by the tree of the project (`Count.query_congr`).

This spares the theorems about loading from looking at answers at all. They show that a change of
the records leaves the rows of every query alone, and the rest is done here once: a total, a
breakdown, a series, a list and a trend are each computed from rows. The filter, the dimension, the
limit and the kind of answer are all general in what is asked of the queries, since a list has a
limit that its filter does not have, and a trend has other windows.
-/

namespace ActivityMetrics

namespace Warehouse

variable {w w' : Warehouse}

/-- The search for the parts of a project follows the links between projects and looks at nothing
else. -/
theorem withPartsTimes_congr (h : w'.projectChildren = w.projectChildren) (n : Nat)
    (projects : List String) : w'.withPartsTimes n projects = w.withPartsTimes n projects := by
  have parts : w'.partsOf = w.partsOf := by
    unfold partsOf
    rw [h]
  induction n generalizing projects with
  | zero => rfl
  | succ n ih => simp only [withPartsTimes, withParts, parts, ih]

/-- The tree of a project depends on the parts of projects only. -/
theorem projectTree_congr (h : w'.projectChildren = w.projectChildren) (project : String) :
    w'.projectTree project = w.projectTree project := by
  unfold projectTree
  rw [h, withPartsTimes_congr h]

end Warehouse

/-- Matches stay the same where the events, the links and the conditions do, and they come in the
same order. -/
theorem Clauses.matchesIn_congr {w w' : Warehouse} {e : Event} {cs : Clauses}
    (records : e.records w' = e.records w)
    (links : ∀ l ∈ cs.joins, ∀ m, l.extend w' e m = l.extend w e m)
    (conditions : ∀ p ∈ cs.predicates, ∀ m, p.holds w' e m = p.holds w e m)
    (start stop : String) : cs.matchesIn w' e start stop = cs.matchesIn w e start stop := by
  have events : eventsIn w' e start stop = (eventsIn w e start stop).map id := by
    rw [List.map_id, eventsIn, records, eventsIn]
  refine (matchesIn_map events (fun l hl m _ => ?_) fun p hp m _ => conditions p hp m).trans
    (List.map_id _)
  rw [List.map_id]
  exact links l hl m

namespace Count

variable {c : Count} {w w' : Warehouse}

/-- The query of a metric depends on the parts of projects only. -/
theorem query_congr (h : w'.projectChildren = w.projectChildren) (c : Count) (f : Filter)
    (group : Option Dimension) : c.query w' f group = c.query w f group := by
  have condition : ∀ (d : Dimension) v, d.condition w' c.source v = d.condition w c.source v := by
    intro d v
    cases d <;> simp only [Dimension.condition, Warehouse.projectTree_congr h]
  simp only [query, Filter.clauses, Dimension.boundClauses, condition]

/-- All queries of a metric run alike over two warehouses. To fail alike is included. It is stated
for queries with any limit, as a breakdown puts one of its own in the place of that of the
filter. -/
def SameRuns (c : Count) (w w' : Warehouse) : Prop :=
  ∀ (f : Filter) (group : Option Dimension) (limit : Option Nat) (mode : Mode),
    { c.query w' f group with limit }.run w' mode = { c.query w f group with limit }.run w mode

/-- A metric that runs the same over two warehouses has the same breakdowns. -/
theorem SameRuns.breakdown (h : c.SameRuns w w') (f : Filter) (d : Dimension)
    (limit : Option Nat) : c.breakdown w' f d limit = c.breakdown w f d limit := by
  simp only [Count.breakdown, h f (some d) limit .aggregate]

/-- A metric that runs the same over two warehouses has the same totals. -/
theorem SameRuns.aggregate (h : c.SameRuns w w') (f : Filter) :
    c.aggregate w' f = c.aggregate w f := by
  have total := h f none f.limit .aggregate
  simp only [Count.aggregate, h.breakdown]
  split
  · rfl
  · exact congrArg (· >>= RowSet.total) total

/-- A metric that runs the same over two warehouses has the same series. -/
theorem SameRuns.series (h : c.SameRuns w w') (f : Filter) : c.series w' f = c.series w f := by
  have rows := h f f.group? f.limit .timeSeries
  unfold Count.series
  exact congrArg (· >>= _) rows

end Count

/-- A metric gives the same answers over two warehouses. Answers are compared for every filter, and
failures are answers in this sense: what one warehouse refuses, the other refuses in the same
words. -/
structure Metric.SameAnswers (m : Metric) (w w' : Warehouse) : Prop where
  /-- The totals and breakdowns are the same. -/
  aggregate : ∀ f, m.aggregate w' f = m.aggregate w f
  /-- The series are the same. -/
  series : ∀ f, m.series w' f = m.series w f
  /-- The ranked lists are the same. -/
  list : ∀ f, m.list w' f = m.list w f
  /-- The trends are the same. -/
  trend : ∀ f anchor days, m.trend w' f anchor days = m.trend w f anchor days

/-- **A metric answers by queries alone**: where those of its source run alike, so do its
answers. -/
theorem Metric.sameAnswers_of_runs {m : Metric} {w w' : Warehouse}
    (h : ∀ c : Count, c.source = m.source → c.SameRuns w w') : m.SameAnswers w w' := by
  have aggregate : ∀ f, m.aggregate w' f = m.aggregate w f := by
    intro f
    cases m with
    | count c => exact (h c rfl).aggregate f
    | backlog =>
      simp only [Metric.aggregate, Backlog.aggregate, Backlog.breakdown, (h .closed rfl).breakdown,
        (h .opened rfl).breakdown, (h .closed rfl).aggregate, (h .opened rfl).aggregate]
  refine ⟨aggregate, fun f => ?_, fun f => ?_, fun f anchor days => ?_⟩
  · cases m with
    | count c => exact (h c rfl).series f
    | backlog =>
      simp only [Metric.series, Backlog.series, (h .closed rfl).series, (h .opened rfl).series]
  · cases m with
    | count c => exact (h c rfl).breakdown f _ _
    | backlog =>
      simp only [Metric.list, Backlog.list, Backlog.breakdown, (h .closed rfl).breakdown,
        (h .opened rfl).breakdown]
  · rw [trend, trend, show m.aggregate w' = m.aggregate w from funext aggregate]

end ActivityMetrics
