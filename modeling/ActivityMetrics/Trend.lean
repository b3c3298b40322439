import ActivityMetrics.Filter.Basic
import ActivityMetrics.Query.Fragments
import ActivityMetrics.Result.Answer

/-!
# Trends

A trend compares the days before an anchor with as many days before them. Both are plain answers
over windows of their own; nothing else of the window of a filter matters. Broken down by a
dimension there is one comparison for every item of either answer. An item that one of them lacks
has zero there, while a value that is present and undefined stays undefined, and so does everything
computed from it.
-/

namespace ActivityMetrics

open Calendar

/-- The comparison of two values. -/
structure TrendValues where
  /-- The value of the recent days. -/
  last : Option Float
  /-- The value of the days before them. -/
  previous : Option Float
  /-- The difference. -/
  delta : Option Float
  /-- The difference in percent of the earlier value, unless that is zero. -/
  percentage : Option Float

/-- The comparison of two values. -/
def TrendValues.of (last previous : Option Float) : TrendValues :=
  match last, previous with
  | some l, some p =>
    { last, previous, delta := some (l - p), percentage := (ratio (l - p) p).map (· * 100) }
  | _, _ => { last, previous, delta := none, percentage := none }

/-- What a trend is about. -/
inductive TrendScope where
  /-- A single comparison. -/
  | total (values : TrendValues)
  /-- One comparison for every item of a dimension. -/
  | items (dimension : Dimension) (keys : List Datum) (values : List TrendValues)

/-- A trend. -/
structure Trend where
  /-- The name of the metric. -/
  metric : String
  /-- The number of days that are compared. -/
  days : Nat
  /-- The day after the recent days. -/
  anchor : Date
  /-- The comparisons. -/
  scope : TrendScope

namespace Trend

/-- The value of an item, zero if it is absent. -/
def valueOf (keys : List Datum) (values : List (Option Float)) (key : Datum) : Option Float :=
  match keys.idxOf? key with
  | some i => (values[i]?).join
  | none => some 0

/-- Aligns the values of two lists of items: the items of the first in their order, then those that
only the second has. -/
def align (lastKeys : List Datum) (lastValues : List (Option Float)) (previousKeys : List Datum)
    (previousValues : List (Option Float)) :
    List Datum × List (Option Float) × List (Option Float) :=
  let keys := keepFirsts lastKeys previousKeys
  (keys, keys.map (valueOf lastKeys lastValues), keys.map (valueOf previousKeys previousValues))

/-- The value of a total. -/
def scalarOf (a : Answer) (field : String) : Outcome (Option Float) :=
  match a.scalar? field with
  | some d => .ok d.number?
  | none => .error (.shape (.missingScalar field))

/-- The items and values of a breakdown. -/
def keyedOf (a : Answer) (key field : String) : Outcome (List Datum × List (Option Float)) :=
  match a.list? key, a.list? field with
  | none, _ => .error (.shape (.missingKeys key))
  | some _, none => .error (.shape (.missingList field))
  | some keys, some values =>
    if keys.length = values.length then .ok (keys, values.map Datum.number?)
    else .error (.shape (.keyCount keys.length values.length field))

/-- The date some days earlier. -/
def daysBefore (d : Date) (days : Nat) : Outcome Date :=
  match d.addDays? (-days) with
  | some earlier => .ok earlier
  | none => .error (.filter (.trendTooLong days d))

/-- What the answers over the two windows compare. -/
def scopeOf (metric : String) (group : Option Dimension) (last previous : Answer) :
    Outcome TrendScope :=
  match group with
  | none => do
    let l ← scalarOf last metric
    let p ← scalarOf previous metric
    return .total (.of l p)
  | some d => do
    let (lk, lv) ← keyedOf last d.name metric
    let (pk, pv) ← keyedOf previous d.name metric
    let (keys, ls, ps) := align lk lv pk pv
    return .items d keys (List.zipWith TrendValues.of ls ps)

/-- The trend of a metric: its answers over the `days` before the anchor and over as many before
those. -/
def compute (metric : String) (aggregate : Filter → Outcome Answer) (f : Filter) (anchor : Date)
    (days : Nat) : Outcome Trend := do
  if days = 0 then throw (.filter .emptyTrend)
  let lastStart ← daysBefore anchor days
  let previousStart ← daysBefore lastStart days
  let lastFilter ← f.withWindow lastStart anchor
  let previousFilter ← f.withWindow previousStart lastStart
  let last ← aggregate lastFilter
  let previous ← aggregate previousFilter
  let scope ← scopeOf metric f.group? last previous
  return { metric, days, anchor, scope }

end Trend

/-! ## Documents -/

/-- The document of a comparison. -/
def TrendValues.document (v : TrendValues) : Document :=
  .object [("last_value", .ofOption .number v.last),
    ("previous_value", .ofOption .number v.previous),
    ("delta", .ofOption .number v.delta),
    ("percentage_change", .ofOption .number v.percentage)]

/-- The document of the comparisons of a trend. -/
def TrendScope.document : TrendScope → Document
  | .total v => v.document
  | .items d keys values =>
    .object [("dimension", .text d.name), ("keys", .list (keys.map Datum.document)),
      ("values", .list (values.map TrendValues.document))]

/-- The document of a trend. -/
def Trend.document (t : Trend) : Document :=
  .object [("metric", .text t.metric), ("days", .integer t.days), ("anchor", .text t.anchor.text),
    ("trends", t.scope.document)]

end ActivityMetrics
