import ActivityMetrics.Period.Basic
import ActivityMetrics.Result.Answer

/-!
# Rows and their completion

The rows of a statement become an answer in one of three ways. A *total* is the single row of an
ungrouped statement. A *completed series* has one entry for every bucket of the window, zero where
no row falls. A *pivot* has one entry for every item, in the order in which the items appear, which
is a value, or a completed series over the same buckets.

The shape of the rows is checked, and every departure from it is reported as a `ShapeFault`. That
there are no rows is none.
-/

namespace ActivityMetrics

open Calendar

/-- The rows of a statement, under named columns. -/
structure RowSet where
  /-- The names of the columns. -/
  columns : List String
  /-- The rows, with one value for each column. -/
  rows : List (List Datum)

/-- The name of the column and the field that identify buckets. -/
def bucketField : String := "id"

/-- The name of the field that shows buckets. -/
def labelField : String := "date"

/-- The name of the field with the seconds at which buckets begin. -/
def secondsField : String := "unixtime"

namespace RowSet

/-- Every row has as many values as there are columns. -/
def checkWidths (t : RowSet) : Outcome Unit :=
  match t.rows.zipIdx.find? fun (row, _) => row.length != t.columns.length with
  | some (row, i) => .error (.shape (.width i row.length t.columns.length))
  | none => .ok ()

/-- The position of the first column of a name. -/
def column (t : RowSet) (name : String) : Outcome Nat :=
  match t.columns.idxOf? name with
  | some i => .ok i
  | none => .error (.shape (.missingColumn name))

/-- The value of a row in a column. -/
def cell (row : List Datum) (i : Nat) : Datum :=
  row.getD i .null

/-- The positions and names of the columns that are not among `taken`. -/
def valueColumns (t : RowSet) (taken : List Nat) : List (Nat × String) :=
  (t.columns.zipIdx.filter fun (_, i) => !taken.contains i).map fun (name, i) => (i, name)

/-! ## Totals -/

/-- The answer of a single row. No row reads as zero. -/
def total (t : RowSet) : Outcome Answer := do
  t.checkWidths
  match t.rows with
  | _ :: _ :: _ => throw (.shape (.severalRows t.rows.length))
  | rows =>
    return (t.valueColumns []).foldl (fun a (i, name) =>
      a.insert name (.scalar (rows.head?.elim (.int 0) fun row => (cell row i).zeroIfNull))) .empty

/-! ## Series -/

/-- The bucket that a row belongs to, among those of a window. -/
def bucketOf (axis : List Period.Bucket) (bucketColumn : Nat) (row : List Datum) : Outcome Int :=
  match (cell row bucketColumn).integer? with
  | none => .error (.shape (.bucketName (cell row bucketColumn).display))
  | some id =>
    if axis.any fun b => b.id == id then .ok id else .error (.shape (.bucketOutside id))

/-- Places rows in the buckets of a window, at most one in each. The first row that has no place is
reported. -/
def place (axis : List Period.Bucket) (bucketColumn : Nat) (placed : List (Int × List Datum)) :
    List (List Datum) → Outcome (List (Int × List Datum))
  | [] => .ok placed
  | row :: rows => do
    let id ← bucketOf axis bucketColumn row
    if (placed.lookup id).isSome then throw (.shape (.bucketRepeated id))
    place axis bucketColumn (placed ++ [(id, row)]) rows

/-- The series of a column: for each bucket the value of its row, or zero. -/
def seriesOf (axis : List Period.Bucket) (placed : List (Int × List Datum)) (column : Nat) :
    List Datum :=
  axis.map fun b => (placed.lookup b.id).elim (.int 0) fun row => (cell row column).zeroIfNull

/-- The fields that describe the buckets of a window. -/
def insertAxis (p : Period) (axis : List Period.Bucket) (a : Answer) : Answer :=
  ((a.insert bucketField (.list (axis.map fun b => .int b.id))).insert
    labelField (.list (axis.map fun b => .text (p.label b.start)))).insert
    secondsField (.list (axis.map fun b => .int b.start.unixMidnight))

/-- The completed series of every value column over a window. -/
def completed (t : RowSet) (p : Period) (start stop : Date) : Outcome Answer := do
  t.checkWidths
  let bucketColumn ← t.column bucketField
  let axis ← p.buckets start stop
  let placed ← place axis bucketColumn [] t.rows
  return (t.valueColumns [bucketColumn]).foldl
    (fun a (i, name) => a.insert name (.list (seriesOf axis placed i)))
    (insertAxis p axis .empty)

/-! ## Pivots -/

/-- Adds a row to those of its item, which comes last if it is new. -/
def addToItem (key : Datum) (row : List Datum) :
    List (Datum × List (List Datum)) → List (Datum × List (List Datum))
  | [] => [(key, [row])]
  | (k, rows) :: items =>
    if k.sameItem key then (k, rows ++ [row]) :: items else (k, rows) :: addToItem key row items

/-- The rows of every item, items and rows in the order in which they appear. -/
def itemsOf (keyColumn : Nat) (rows : List (List Datum)) : List (Datum × List (List Datum)) :=
  rows.foldl (fun items row => addToItem (cell row keyColumn) row items) []

/-- The row of an item that has a single one. -/
def singleRow (item : Datum × List (List Datum)) : Outcome (List Datum) :=
  match item.2 with
  | [row] => .ok row
  | rows => .error (.shape (.itemRepeated item.1.display rows.length))

/-- One value for every item, in the order in which the items appear. -/
def pivoted (t : RowSet) (key : String) : Outcome Answer := do
  t.checkWidths
  let keyColumn ← t.column key
  let items := itemsOf keyColumn t.rows
  let rows ← items.mapM singleRow
  return ((t.valueColumns [keyColumn]).foldl
    (fun a (i, name) => a.insert name (.list (rows.map fun row => (cell row i).zeroIfNull)))
    Answer.empty).insert key (.list (items.map Prod.fst))

/-- One completed series for every item, in the order in which the items appear. -/
def pivotedSeries (t : RowSet) (key : String) (p : Period) (start stop : Date) :
    Outcome Answer := do
  t.checkWidths
  let keyColumn ← t.column key
  let bucketColumn ← t.column bucketField
  let items := itemsOf keyColumn t.rows
  let axis ← p.buckets start stop
  let placed ← items.mapM fun item => place axis bucketColumn [] item.2
  return ((t.valueColumns [keyColumn, bucketColumn]).foldl
    (fun a (i, name) => a.insert name (.grouped (placed.map fun rows => seriesOf axis rows i)))
    (insertAxis p axis .empty)).insert key (.list (items.map Prod.fst))

end RowSet

end ActivityMetrics
