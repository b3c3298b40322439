import ActivityMetrics.Metric.Query

/-!
# Answers of counting metrics

A counting metric gives a total or, broken down, one value for each item; a series over the buckets
of the window, or one for each item; and a ranked list of items.
-/

namespace ActivityMetrics

open Calendar

/-- A ranked list has so many items unless the filter says otherwise. -/
def defaultListLimit : Nat := 10

namespace Count

/-- One value for each item of a dimension, by descending value, and no more than the limit. -/
def breakdown (c : Count) (w : Warehouse) (f : Filter) (d : Dimension) (limit : Option Nat) :
    Outcome Answer := do
  let rows ← { c.query w f (some d) with limit }.run w .aggregate
  rows.pivoted d.name

/-- The total over the window, or one value for each item. -/
def aggregate (c : Count) (w : Warehouse) (f : Filter) : Outcome Answer :=
  match f.group? with
  | some d => c.breakdown w f d f.limit
  | none => do
    let rows ← (c.query w f none).run w .aggregate
    rows.total

/-- The series over the window, or one for each item. -/
def series (c : Count) (w : Warehouse) (f : Filter) : Outcome Answer := do
  let rows ← (c.query w f f.group?).run w .timeSeries
  match f.group? with
  | some d => rows.pivotedSeries d.name f.period f.start f.stop
  | none => rows.completed f.period f.start f.stop

/-- The items with the greatest values. -/
def list (c : Count) (w : Warehouse) (f : Filter) : Outcome Answer :=
  c.breakdown w f (f.group?.getD c.listDimension) (some (f.limit.getD defaultListLimit))

end Count

end ActivityMetrics
