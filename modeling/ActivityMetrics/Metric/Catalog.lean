import ActivityMetrics.Metric.Backlog
import ActivityMetrics.Trend

/-!
# The catalog of metrics

All metrics, with the names by which they are asked for, and the four kinds of answer that each
gives.
-/

namespace ActivityMetrics

open Calendar

/-- A metric. -/
inductive Metric where
  /-- A counting metric. -/
  | count (c : Count)
  /-- The backlog management index. -/
  | backlog
deriving DecidableEq

namespace Metric

/-- The name by which a metric is asked for, and of its value. -/
def id : Metric → String
  | .count c => c.id
  | .backlog => Backlog.field

/-- The name under which a metric is shown. -/
def title : Metric → String
  | .count c => c.title
  | .backlog => "Backlog management index"

/-- The source of a metric. -/
def source : Metric → Source
  | .count c => c.source
  | .backlog => .its

/-- The dimension that a list ranks unless the filter names one. -/
def listDimension : Metric → Dimension
  | .count c => c.listDimension
  | .backlog => .repository

/-- The definition of a metric, if it has one of its own. -/
def definition (m : Metric) (f : Filter) : Outcome Definition :=
  match m with
  | .count c => .ok (c.definition f)
  | .backlog => .error .derivedIndex

/-- All metrics, source by source. -/
def all : List Metric :=
  [.count .commits, .count .authors, .count .committers, .count .repositories, .count .opened,
   .count .openers, .count .closed, .count .closers, .backlog]

/-- The metric that a name stands for. -/
def ofName (s : String) : Outcome Metric :=
  match all.find? fun m => m.id == normalName s with
  | some m => .ok m
  | none => .error (.unknownMetric (normalName s))

/-- The metrics of a source. -/
def ofSource (source : Source) : List Metric :=
  all.filter fun m => m.source == source

/-! ## Answers -/

/-- The total over the window, or one value for each item. -/
def aggregate (m : Metric) (w : Warehouse) (f : Filter) : Outcome Answer :=
  match m with
  | .count c => c.aggregate w f
  | .backlog => Backlog.aggregate w f

/-- The series over the window, or one for each item. -/
def series (m : Metric) (w : Warehouse) (f : Filter) : Outcome Answer :=
  match m with
  | .count c => c.series w f
  | .backlog => Backlog.series w f

/-- The items with the greatest values. -/
def list (m : Metric) (w : Warehouse) (f : Filter) : Outcome Answer :=
  match m with
  | .count c => c.list w f
  | .backlog => Backlog.list w f

/-- The days before an anchor, compared with as many days before them. -/
def trend (m : Metric) (w : Warehouse) (f : Filter) (anchor : Date) (days : Nat) :
    Outcome Trend :=
  Trend.compute m.id (m.aggregate w) f anchor days

end Metric

end ActivityMetrics
