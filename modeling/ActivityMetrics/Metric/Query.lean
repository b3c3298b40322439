import ActivityMetrics.Metric.Count
import ActivityMetrics.Query.Limits
import ActivityMetrics.Query.Statement
import ActivityMetrics.Result.RowSet

/-!
# Queries

A query is a metric under a filter, perhaps broken down by a dimension. It has two readings. As a
*statement* it is text for a database (`Query.statement`). As a *question to a warehouse* it is
answered from the matches of its clauses (`Query.rows`): each row counts the distinct values among
the matches that fall together. `Query.run` gives the rows of a query whose statement the database
accepts.
-/

namespace ActivityMetrics

open Calendar

/-- A metric under a filter. -/
structure Query where
  /-- The source. -/
  source : Source
  /-- The events. -/
  event : Event
  /-- The name of the value. -/
  name : String
  /-- What is counted. -/
  counted : Counted
  /-- The links and conditions. -/
  clauses : Clauses
  /-- The first day of the window. -/
  start : Date
  /-- The day after the last one of the window. -/
  stop : Date
  /-- How finely a series is cut. -/
  period : Period
  /-- The dimension that is broken down. -/
  group : Option Dimension
  /-- The greatest number of items. -/
  limit : Option Nat

/-- The query of a metric under a filter, broken down by a dimension if there is one. -/
def Count.query (c : Count) (w : Warehouse) (f : Filter) (group : Option Dimension) : Query :=
  let definition := c.definition f
  let restricted := definition.base.merge (f.clauses w c.source)
  { source := c.source
    event := definition.event
    name := definition.name
    counted := definition.counted
    clauses := group.elim restricted fun d => restricted.merge (d.clauses c.source)
    start := f.start
    stop := f.stop
    period := f.period
    group
    limit := f.limit }

namespace Query

/-! ## As a statement -/

/-- The statement of a query. -/
def statement (q : Query) : Statement :=
  { source := q.source
    table := q.event.table
    fields := [⟨q.name, q.counted.text⟩]
    fragments := q.clauses.wording q.event
    dateColumn := q.event.date.text
    start := q.start
    stop := q.stop
    period := q.period
    grouping := q.group.map fun d => (d, (d.key? q.source).map fun k => k.column.text)
    limit := q.limit }

/-! ## As a question to a warehouse -/

/-- The matches of a query. -/
def matchesIn (q : Query) (w : Warehouse) : List Match :=
  q.clauses.matchesIn w q.event q.start.text q.stop.text

/-- The dimension that is broken down and its key, which there has to be. -/
def key? (q : Query) : Outcome (Option (Dimension × GroupKey)) :=
  match q.group with
  | none => .ok none
  | some d =>
    match d.key? q.source with
    | some k => .ok (some (d, k))
    | none => .error (.unsupportedDimension d.name q.source.name)

/-- The items of a key among matches, with the number of distinct values of each. -/
def itemCounts (q : Query) (key : GroupKey) (ms : List Match) : List (String × Nat) :=
  (ms.filterMap key.valueOf).eraseDups.map fun item =>
    (item, q.counted.count (ms.filter fun m => key.valueOf m == some item))

/-- The order of a ranking: by descending number, and by item where numbers are equal. -/
def rankLe (a b : String × Nat) : Bool :=
  if a.2 = b.2 then a.1 ≤ b.1 else b.2 ≤ a.2

/-- The items of a key as a ranking, cut to the limit. -/
def ranking (q : Query) (key : GroupKey) (ms : List Match) : List (String × Nat) :=
  let ranked := (q.itemCounts key ms).mergeSort rankLe
  q.limit.elim ranked ranked.take

/-- The bucket of a match. -/
def bucketOf (q : Query) (m : Match) : Option Int :=
  q.period.bucketOfText m.record.date

/-- The order of buckets. An absent one comes first. -/
def bucketLe : Option Int → Option Int → Bool
  | none, _ => true
  | some _, none => false
  | some i, some j => i ≤ j

/-- The buckets of matches, in order, with the matches of each. -/
def byBucket (q : Query) (ms : List Match) : List (Option Int × List Match) :=
  ((ms.map q.bucketOf).eraseDups.mergeSort bucketLe).map fun b =>
    (b, ms.filter fun m => q.bucketOf m == b)

/-- The value of a bucket in a row. -/
def bucketDatum : Option Int → Datum
  | some i => .int i
  | none => .null

/-- The rows of a query, broken down by a key if there is one. -/
def rows (q : Query) (w : Warehouse) (mode : Mode) (key : Option (Dimension × GroupKey)) : RowSet :=
  let ms := q.matchesIn w
  match key, mode with
  | none, .aggregate => ⟨[q.name], [[.int (q.counted.count ms)]]⟩
  | some (d, key), .aggregate =>
    ⟨[d.name, q.name], (q.ranking key ms).map fun (item, n) => [.text item, .int n]⟩
  | none, .timeSeries =>
    ⟨[bucketField, q.name],
      (q.byBucket ms).map fun (b, ms) => [bucketDatum b, .int (q.counted.count ms)]⟩
  | some (d, key), .timeSeries =>
    ⟨[bucketField, d.name, q.name],
      (q.byBucket ms).flatMap fun (b, ms) =>
        ((q.itemCounts key ms).mergeSort fun x y => x.1 ≤ y.1).map fun (item, n) =>
          [bucketDatum b, .text item, .int n]⟩

/-- The fault of the statement of a query, if the database refuses it. -/
def fault? (q : Query) (mode : Mode) (text : String) : Option DatabaseFault :=
  let limited := mode = .aggregate ∧ q.group.isSome ∧ q.limit.isSome
  Limits.fault? q.event q.clauses limited text

/-- Runs a query: the dimension has to have a key, and the statement has to be within the limits of
the database. -/
def run (q : Query) (w : Warehouse) (mode : Mode) : Outcome RowSet := do
  let key ← q.key?
  let compiled ← q.statement.compile mode
  match q.fault? mode compiled.text with
  | some fault => throw (.database fault)
  | none => return q.rows w mode key

end Query

end ActivityMetrics
