import ActivityMetrics.Metric.Answers

/-!
# The backlog management index

The index is the number of issues closed for every hundred opened. It is composed from the two
counts, item by item and bucket by bucket, and is undefined where nothing was opened. The items are
those of either count, those with an opened issue first; an item that one of the counts lacks has
zero there.

A ranking is by descending index with the undefined ones last, and keeps the order of items where
indexes are equal. The limit applies to the ranked items.
-/

namespace ActivityMetrics

namespace Backlog

/-- The name of the index. -/
def field : String := "bmi"

/-- The index of two counts. -/
def index (closed opened : Datum) : Datum :=
  .ofNumber? ((ratio closed.orZero opened.orZero).map (· * 100))

/-- A field that an answer has to have. -/
def need {α : Type} (name : String) : Option α → Outcome α
  | some a => .ok a
  | none => .error (.shape (.missingField name))

/-- The items of two lists, each of them once. -/
def unionItems (first second : List Datum) : List Datum :=
  keepFirsts first second

/-- The entry of an item, or a default. -/
def entryOf {α : Type} (items : List Datum) (entries : List α) (default : α) (item : Datum) : α :=
  ((items.idxOf? item).bind (entries[·]?)).getD default

/-- The items and the three lists of a breakdown. -/
structure Combined where
  /-- The items. -/
  items : List Datum
  /-- Issues closed, by item. -/
  closed : List Datum
  /-- Issues opened, by item. -/
  opened : List Datum
  /-- The index, by item. -/
  bmi : List Datum

/-- Combines the breakdowns of the two counts by a dimension. -/
def combine (key : String) (closed opened : Answer) : Outcome Combined := do
  let ck ← need key (closed.list? key)
  let cv ← need "closed" (closed.list? "closed")
  let ok ← need key (opened.list? key)
  let ov ← need "opened" (opened.list? "opened")
  let items := unionItems ok ck
  let closed := items.map (entryOf ck cv (.int 0))
  let opened := items.map (entryOf ok ov (.int 0))
  return { items, closed, opened, bmi := List.zipWith index closed opened }

/-- One index comes before another, or is equal to it. The undefined ones come last. -/
def indexLe (a b : Datum) : Bool :=
  match a.number?, b.number? with
  | some x, some y => !(x < y)
  | none, some _ => false
  | _, none => true

/-- The positions of the items of a ranking. -/
def ranked (c : Combined) (limit : Option Nat) : List Nat :=
  let order := (c.bmi.zipIdx.mergeSort fun a b => indexLe a.1 b.1).map Prod.snd
  limit.elim order order.take

/-- The answer with the items at some positions. -/
def selected (key : String) (c : Combined) (order : List Nat) : Answer :=
  let pick (ds : List Datum) : FieldValue := .list (order.filterMap (ds[·]?))
  (((Answer.empty.insert key (pick c.items)).insert "closed" (pick c.closed)).insert
    "opened" (pick c.opened)).insert field (pick c.bmi)

/-- The index for each item of a dimension. -/
def breakdown (w : Warehouse) (f : Filter) (d : Dimension) (limit : Option Nat) :
    Outcome Answer := do
  let closed ← Count.closed.breakdown w f d none
  let opened ← Count.opened.breakdown w f d none
  let combined ← combine d.name closed opened
  return selected d.name combined (ranked combined limit)

/-- The index over the window, or for each item. -/
def aggregate (w : Warehouse) (f : Filter) : Outcome Answer :=
  match f.group? with
  | some d => breakdown w f d f.limit
  | none => do
    let closed ← Count.closed.aggregate w f
    let opened ← Count.opened.aggregate w f
    let c ← need "closed" (closed.scalar? "closed")
    let o ← need "opened" (opened.scalar? "opened")
    return ((Answer.empty.insert field (.scalar (index c o))).insert "closed" (.scalar c)).insert
      "opened" (.scalar o)

/-- The fields that describe the buckets of a series. -/
def copyAxis (a : Answer) : Outcome Answer := do
  let ids ← need bucketField (a.list? bucketField)
  let labels ← need labelField (a.list? labelField)
  let seconds ← need secondsField (a.list? secondsField)
  return ((Answer.empty.insert bucketField (.list ids)).insert labelField (.list labels)).insert
    secondsField (.list seconds)

/-- The indexes of two series. -/
def indexes (closed opened : List Datum) : List Datum :=
  List.zipWith index closed opened

/-- Adds the series of a window to its buckets. -/
def plainSeries (closed opened out : Answer) : Outcome Answer := do
  let cv ← need "closed" (closed.list? "closed")
  let ov ← need "opened" (opened.list? "opened")
  if cv.length ≠ ov.length then
    throw (.shape (.bucketCount cv.length ov.length))
  return ((out.insert field (.list (indexes cv ov))).insert "closed" (.list cv)).insert
    "opened" (.list ov)

/-- Adds the series of every item to the buckets of a window. -/
def groupedSeries (key : String) (closed opened out : Answer) : Outcome Answer := do
  let buckets := ((out.list? bucketField).getD []).length
  let ck ← need key (closed.list? key)
  let cs ← need "closed" (closed.grouped? "closed")
  let ok ← need key (opened.list? key)
  let os ← need "opened" (opened.grouped? "opened")
  let zeros := List.replicate buckets (Datum.int 0)
  let items := unionItems ok ck
  let closed := items.map (entryOf ck cs zeros)
  let opened := items.map (entryOf ok os zeros)
  return (((out.insert key (.list items)).insert
    field (.grouped (List.zipWith indexes closed opened))).insert
    "closed" (.grouped closed)).insert "opened" (.grouped opened)

/-- The index for each bucket of the window, or one series for each item. -/
def series (w : Warehouse) (f : Filter) : Outcome Answer := do
  let closed ← Count.closed.series w f
  let opened ← Count.opened.series w f
  let out ← copyAxis opened
  match f.group? with
  | none => plainSeries closed opened out
  | some d => groupedSeries d.name closed opened out

/-- The items with the greatest index. -/
def list (w : Warehouse) (f : Filter) : Outcome Answer :=
  breakdown w f (f.group?.getD .repository) (some (f.limit.getD defaultListLimit))

end Backlog

end ActivityMetrics
