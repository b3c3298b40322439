import ActivityMetrics.Proofs.Result.Columns

/-!
# Rows broken down by item

Rows that have a column of items can be read in two ways: all at once, as a pivot, or item by item,
as the rows of one item without the column that names it. A pivoted series is the completed series
of every item, side by side, and it fails only where one of these fails; a pivot without buckets is
the value of every item, and it fails when an item has two rows (`RowSet.pivot_by_item`).

An item may be a number, a text or absent. Then values name the same item exactly when they are
equal, and the number 1 is another item than the text `1`.

The rows of an item have another set of columns, and so nothing about them is literally a part of
what the pivot computes. What is common to the two is where the rows have their places in the
buckets. Both the pivot and the completed series succeed exactly if rows are as wide as the columns
and have their places, and each of their fields is read off these places. So both are brought into
this form first (`RowSet.completed_eq_ok_iff`, `RowSet.pivotedSeries_eq_ok_iff`), and are then
compared place by place.
-/

namespace ActivityMetrics

open Calendar

/-! ## Items

Whether two values name the same item is decided by a comparison of its own, and whether an item is
listed already by the equality of values. For exact values both are identity. -/

namespace Datum

/-- The value is no floating-point number. Numbers of floating point are compared by their bits in
the one place and by their values in the other. -/
def Exact : Datum → Prop
  | .float _ => False
  | .int _ | .text _ | .null => True

variable {a b : Datum}

/-- Exact values are equal when they are the same. -/
theorem Exact.beq_iff (ha : a.Exact) (hb : b.Exact) : (a == b) = true ↔ a = b := by
  cases a with
  | float => exact ha.elim
  | int i => cases b with
    | int j => exact (beq_iff_eq (a := i)).trans (by rw [int.injEq])
    | float | text | null => exact ⟨nofun, nofun⟩
  | text s => cases b with
    | text s' => exact (beq_iff_eq (a := s)).trans (by rw [text.injEq])
    | int | float | null => exact ⟨nofun, nofun⟩
  | null => cases b with
    | null => exact ⟨fun _ => rfl, fun _ => rfl⟩
    | int | float | text => exact ⟨nofun, nofun⟩

/-- Exact values name the same item when they are equal. -/
theorem Exact.sameItem_eq (ha : a.Exact) (hb : b.Exact) : a.sameItem b = (a == b) := by
  cases a with
  | float => exact ha.elim
  | int | text | null => cases b with
    | float => exact hb.elim
    | int | text | null => rfl

end Datum

/-- A value that can name an item. -/
structure ItemName where
  /-- The value. -/
  datum : Datum
  /-- It is no floating-point number. -/
  exact : datum.Exact

namespace ItemName

/-- An item is its value. -/
theorem datum_injective : Function.Injective datum := by
  rintro ⟨a, _⟩ ⟨b, _⟩ rfl
  rfl

theorem beq_iff (a b : ItemName) : (a.datum == b.datum) = true ↔ a = b :=
  (a.exact.beq_iff b.exact).trans datum_injective.eq_iff

instance : DecidableEq ItemName := fun a b =>
  decidable_of_iff _ (a.beq_iff b)

/-- Items are the same when their values name the same item. -/
theorem sameItem_eq (a b : ItemName) : a.datum.sameItem b.datum = decide (a = b) := by
  rw [a.exact.sameItem_eq b.exact, Bool.eq_iff_iff, decide_eq_true_iff, a.beq_iff b]

/-- Items are united as their values are. -/
theorem keepFirsts_map_datum (xs ys : List ItemName) :
    keepFirsts (xs.map datum) (ys.map datum) = (keepFirsts xs ys).map datum := by
  refine keepFirsts_map_of_beq (fun a _ b _ => ?_) (List.subset_append_left xs ys)
    (List.subset_append_right xs ys)
  rw [Bool.eq_iff_iff, a.beq_iff b, beq_iff_eq]

/-- The ordered set of exact values has each of them once. -/
theorem keepFirsts_datum (names : List ItemName) :
    keepFirsts [] (names.map datum) = names.eraseDups.map datum := by
  rw [eraseDups_eq_keepFirsts]
  exact keepFirsts_map_datum [] names

end ItemName

section

variable {ds : List Datum}

/-- A list of exact values is one of items. -/
theorem exists_names (exact : ∀ d ∈ ds, d.Exact) :
    ∃ names : List ItemName, names.map ItemName.datum = ds := by
  refine ⟨ds.attach.map fun d => ⟨d.1, exact d.1 d.2⟩, ?_⟩
  rw [List.map_map]
  exact ds.attach_map_subtype_val

/-- No item is listed twice. -/
theorem nodup_items (exact : ∀ d ∈ ds, d.Exact) : (keepFirsts [] ds).Nodup := by
  obtain ⟨names, rfl⟩ := exists_names exact
  rw [ItemName.keepFirsts_datum]
  exact (nodup_eraseDups names).map ItemName.datum_injective

/-- No item is missing in the list. -/
theorem mem_items_iff (exact : ∀ d ∈ ds, d.Exact) {d : Datum} :
    d ∈ keepFirsts [] ds ↔ d ∈ ds := by
  obtain ⟨names, rfl⟩ := exists_names exact
  simp only [ItemName.keepFirsts_datum, List.mem_map, List.mem_eraseDups]

/-- Items of which none is repeated stay as they are. -/
theorem items_eq_self (exact : ∀ d ∈ ds, d.Exact) (nodup : ds.Nodup) : keepFirsts [] ds = ds := by
  obtain ⟨names, rfl⟩ := exists_names exact
  rw [ItemName.keepFirsts_datum, eraseDups_eq_self nodup.of_map]

end

namespace RowSet

variable {t u : RowSet} {key name : String} {p : Period} {start stop : Date}
variable {axis : List Period.Bucket} {a c : Answer}

/-! ## The rows of an item

A column is the list of its cells, and the rows of an item are those whose cell has it. -/

/-- The values of a column, from row to row. A row that is too short has an absent value. -/
def values (t : RowSet) (name : String) : List Datum :=
  t.rows.map fun row => cell row (t.columns.idxOf name)

/-- The items of a column, in the order in which they appear, each of them once. An absent value is
an item, too. -/
def items (t : RowSet) (key : String) : List Datum :=
  keepFirsts [] (t.values key)

/-- The rows of an item, in the order in which they come. Over a window there is one for each bucket
in which it occurs. -/
def rowsOf (t : RowSet) (key : String) (item : Datum) : List (List Datum) :=
  t.rows.filter fun row => cell row (t.columns.idxOf key) == item

/-- The rows of an item, without the column of items. This is the table that one would get by asking
for the item alone. -/
def ofItem (t : RowSet) (key : String) (item : Datum) : RowSet :=
  ⟨t.columns.eraseIdx (t.columns.idxOf key),
    (t.rowsOf key item).map (·.eraseIdx (t.columns.idxOf key))⟩

/-- The cell of a row is one of the values of its column. -/
theorem mem_values {row : List Datum} (h : row ∈ t.rows) (name : String) :
    cell row (t.columns.idxOf name) ∈ t.values name :=
  List.mem_map.2 ⟨row, h, rfl⟩

/-- Rows with a column of items, a column of buckets, and columns of values. Nothing is asked of the
widths of rows or of what is in the other cells: these are what a pivot is for to check. -/
structure Itemized (t : RowSet) (key : String) : Prop where
  /-- The columns have different names. -/
  nodup : t.columns.Nodup
  /-- There is a column of items. -/
  key_mem : key ∈ t.columns
  /-- There is a column of buckets. -/
  bucket_mem : bucketField ∈ t.columns
  /-- They are not the same. -/
  key_ne : key ≠ bucketField
  /-- No column has the name of the field that shows buckets. -/
  label_not_mem : labelField ∉ t.columns
  /-- No column has the name of the field with the seconds. -/
  seconds_not_mem : secondsField ∉ t.columns
  /-- Items are numbers, texts or absent. -/
  exact : ∀ d ∈ t.values key, d.Exact

/-- **The items of rows with the rows of every item.** The rows are collected item by item as they
come; what results is the list of items, each with the rows that have it. -/
theorem itemsOf_eq_items (exact : ∀ d ∈ t.values key, d.Exact) :
    itemsOf (t.columns.idxOf key) t.rows
      = (t.items key).map fun item => (item, t.rowsOf key item) := by
  -- rows with the proof that they are there, of which each has an exact item
  let item : {row // row ∈ t.rows} → ItemName := fun row => ⟨_, exact _ (mem_values row.2 key)⟩
  have listed : t.values key = (t.rows.attach.map item).map ItemName.datum := by
    rw [List.map_map, values]
    conv => lhs; rw [← t.rows.attach_map_subtype_val, List.map_map]
    rfl
  have rows : itemsOf (t.columns.idxOf key) (t.rows.attach.map Subtype.val)
      = (t.rows.attach.map item).eraseDups.map fun k =>
        (k.datum, (t.rows.attach.filter fun row => item row = k).map Subtype.val) :=
    itemsOf_eq ItemName.sameItem_eq fun _ _ => rfl
  rw [List.attach_map_subtype_val] at rows
  rw [rows, items, listed, ItemName.keepFirsts_datum, List.map_map]
  refine List.map_congr_left fun (k : ItemName) _ => congrArg (Prod.mk k.datum) ?_
  conv => rhs; rw [rowsOf, ← t.rows.attach_map_subtype_val, List.filter_map]
  refine congrArg _ (List.filter_congr fun row _ => ?_)
  rw [Bool.eq_iff_iff, decide_eq_true_iff]
  exact ((item row).beq_iff k).symm

/-- Without their rows, these are the items. -/
theorem map_fst_rowsOf :
    ((t.items key).map fun item => (item, t.rowsOf key item)).map Prod.fst = t.items key := by
  rw [List.map_map]
  exact List.map_id _

/-! ## Rows placed in buckets

The place of a row depends on one cell, and a value in its place on another. Nothing else of the row
is looked at. -/

/-- Rows may be replaced before they are placed or after, if their bucket stays. -/
theorem place_map {e : List Datum → List Datum} {i j : Nat}
    (same : ∀ row, cell (e row) j = cell row i) (rows : List (List Datum))
    (placed : List (Int × List Datum)) :
    place axis j (placed.map (Prod.map id e)) (rows.map e)
      = (place axis i placed rows).map (List.map (Prod.map id e)) := by
  induction rows generalizing placed with
  | nil => rfl
  | cons row rows ih =>
    have bucket : bucketOf axis j (e row) = bucketOf axis i row := by
      rw [bucketOf, bucketOf, same]
    rw [List.map_cons, place, place, bucket]
    cases bucketOf axis i row with
    | error fault => rfl
    | ok b =>
      have found : ((placed.map (Prod.map id e)).lookup b).isSome = (placed.lookup b).isSome := by
        rw [lookup_map_snd, Option.isSome_map]
      have rest := ih (placed ++ [(b, row)])
      rw [List.map_append] at rest
      simp only [bind, Except.bind, found]
      split
      · rfl
      · exact rest

/-- A column of values is read alike from rows that are replaced, if its cell stays. -/
theorem seriesOf_map {e : List Datum → List Datum} {i j : Nat}
    (same : ∀ row, cell (e row) j = cell row i) (placed : List (Int × List Datum)) :
    seriesOf axis (placed.map (Prod.map id e)) j = seriesOf axis placed i := by
  refine List.map_congr_left fun b _ => ?_
  rw [lookup_map_snd]
  cases placed.lookup b.id with
  | none => rfl
  | some row => exact congrArg Datum.zeroIfNull (same row)

/-! ## Answers column by column

Success is turned into the existence of places, and the answer into a function of the places. -/

/-- **A completed series is a placement of its rows**, read column by column. -/
theorem completed_eq_ok_iff (bucket : bucketField ∈ u.columns)
    (defined : p.buckets start stop = .ok axis) :
    u.completed p start stop = .ok c ↔
      (∀ row ∈ u.rows, row.length = u.columns.length) ∧
      ∃ placed, place axis (u.columns.idxOf bucketField) [] u.rows = .ok placed ∧
        (insertAxis p axis .empty).insertColumns (u.valueColumns [u.columns.idxOf bucketField])
          (fun i => .list (seriesOf axis placed i)) = c := by
  rw [← checkWidths_eq_ok_iff, completed, column_eq bucket, defined]
  simp only [bind_eq_ok_iff, pure, Except.pure, Except.ok.injEq, exists_eq_left',
    Unique.exists_iff]
  rfl

/-- **A pivoted series is a placement of the rows of every item**, read column by column. -/
theorem pivotedSeries_eq_ok_iff (shape : t.Itemized key)
    (defined : p.buckets start stop = .ok axis) :
    t.pivotedSeries key p start stop = .ok a ↔
      (∀ row ∈ t.rows, row.length = t.columns.length) ∧
      ∃ placed, List.Forall₂ (fun item rows =>
          place axis (t.columns.idxOf bucketField) [] (t.rowsOf key item) = .ok rows)
          (t.items key) placed ∧
        ((insertAxis p axis .empty).insertColumns
          (t.valueColumns [t.columns.idxOf key, t.columns.idxOf bucketField])
          (fun i => .grouped (placed.map fun rows => seriesOf axis rows i))).insert key
          (.list (t.items key)) = a := by
  rw [← checkWidths_eq_ok_iff, pivotedSeries, column_eq shape.key_mem,
    column_eq shape.bucket_mem, defined]
  simp only [bind_eq_ok_iff, pure, Except.pure, Except.ok.injEq, exists_eq_left',
    Unique.exists_iff, itemsOf_eq_items shape.exact, map_fst_rowsOf, mapM_eq_ok_iff,
    List.forall₂_map_left_iff]
  rfl

/-- **A pivot is the single row of every item**, read column by column. -/
theorem pivoted_eq_ok_iff (there : key ∈ t.columns) (exact : ∀ d ∈ t.values key, d.Exact) :
    t.pivoted key = .ok a ↔
      (∀ row ∈ t.rows, row.length = t.columns.length) ∧
      ∃ rows, List.Forall₂ (fun item row => t.rowsOf key item = [row]) (t.items key) rows ∧
        (Answer.empty.insertColumns (t.valueColumns [t.columns.idxOf key])
          (fun i => .list (rows.map fun row => (cell row i).zeroIfNull))).insert key
          (.list (t.items key)) = a := by
  have single : ∀ item row, singleRow item = .ok row ↔ item.2 = [row] := by
    rintro ⟨item, rows⟩ row
    unfold singleRow
    split
    · rename_i only
      rw [only, List.cons.injEq, Except.ok.injEq]
      exact (and_iff_left rfl).symm
    · rename_i several
      exact ⟨nofun, fun only => (several row only).elim⟩
  rw [← checkWidths_eq_ok_iff, pivoted, column_eq there]
  simp only [bind_eq_ok_iff, pure, Except.pure, Except.ok.injEq, exists_eq_left',
    Unique.exists_iff, itemsOf_eq_items exact, map_fst_rowsOf, mapM_eq_ok_iff,
    List.forall₂_map_left_iff, single]
  rfl

/-! ## Items with a single row

Without buckets a row has no place but its item, and there may be one for each. -/

/-- If no item is repeated, every row is all its item has. -/
theorem rowsOf_cell (exact : ∀ d ∈ t.values key, d.Exact) (nodup : (t.values key).Nodup)
    {row : List Datum} (h : row ∈ t.rows) :
    t.rowsOf key (cell row (t.columns.idxOf key)) = [row] := by
  classical
  rw [← filter_eq_singleton nodup.of_map h, rowsOf]
  refine List.filter_congr fun other there => ?_
  rw [Bool.eq_iff_iff, decide_eq_true_iff,
    (exact _ (mem_values there key)).beq_iff (exact _ (mem_values h key))]
  exact ⟨fun same => List.inj_on_of_nodup_map nodup there h same, fun same => same ▸ rfl⟩

/-- **Every item has a single row exactly when none is repeated.** -/
theorem forall₂_rowsOf_iff (exact : ∀ d ∈ t.values key, d.Exact) {rows : List (List Datum)} :
    List.Forall₂ (fun item row => t.rowsOf key item = [row]) (t.items key) rows ↔
      (t.values key).Nodup ∧ rows = t.rows := by
  have all : (t.values key).Nodup →
      List.Forall₂ (fun item row => t.rowsOf key item = [row]) (t.items key) t.rows := by
    intro nodup
    rw [items, items_eq_self exact nodup, values, List.forall₂_map_left_iff, List.forall₂_same]
    exact fun row h => rowsOf_cell exact nodup h
  constructor
  · intro single
    have nodup : (t.values key).Nodup := by
      rw [values, List.Nodup, List.pairwise_map, List.pairwise_iff_forall_sublist]
      intro first second both same
      have there := mem_values (both.subset List.mem_cons_self) key
      have own : ∀ row ∈ [first, second],
          (cell row (t.columns.idxOf key) == cell first (t.columns.idxOf key)) = true := by
        rw [List.forall_mem_cons, List.forall_mem_singleton, ← same, and_self]
        exact ((exact _ there).beq_iff (exact _ there)).2 rfl
      -- both rows are among those of the item
      have pair := both.filter fun row =>
        cell row (t.columns.idxOf key) == cell first (t.columns.idxOf key)
      rw [List.filter_eq_self.2 own] at pair
      obtain ⟨row, only⟩ := exists_forall₂_iff.1 ⟨rows, single⟩ _ ((mem_items_iff exact).2 there)
      have short : 2 ≤ (t.rowsOf key (cell first (t.columns.idxOf key))).length := pair.length_le
      rw [only] at short
      exact Nat.not_succ_le_self 1 short
    have unique : Relator.RightUnique fun item row => t.rowsOf key item = [row] :=
      fun _ _ _ h h' => List.head_eq_of_cons_eq (h.symm.trans h')
    exact ⟨nodup, List.right_unique_forall₂' unique single (all nodup)⟩
  · rintro ⟨nodup, rfl⟩
    exact all nodup

/-! ## The series of an item

The rows of an item are completed without the column that names it, and their fields are those of
the pivot for this item. -/

/-- The other columns are still there. -/
theorem mem_columns_ofItem (h : name ∈ t.columns) (ne : name ≠ key) (item : Datum) :
    name ∈ (t.ofItem key item).columns := by
  show name ∈ t.columns.eraseIdx (t.columns.idxOf key)
  rw [← List.erase_eq_eraseIdx_of_idxOf rfl]
  exact (List.mem_erase_of_ne ne).2 h

/-- The completed series of an item, when its rows have their places. The places are those of the
rows with the column of items. -/
def itemAnswer (t : RowSet) (key : String) (item : Datum) (p : Period)
    (axis : List Period.Bucket) (placed : List (Int × List Datum)) : Answer :=
  (insertAxis p axis .empty).insertColumns
    ((t.ofItem key item).valueColumns [(t.ofItem key item).columns.idxOf bucketField])
    fun i => .list
      (seriesOf axis (placed.map (Prod.map id (·.eraseIdx (t.columns.idxOf key)))) i)

namespace Itemized

variable (shape : t.Itemized key)
include shape

/-- The cells of the columns that are not about items stay when the column of items is left out. -/
theorem cell_eraseIdx (h : name ∈ t.columns) (ne : name ≠ key) (row : List Datum) :
    cell (row.eraseIdx (t.columns.idxOf key))
      ((t.columns.eraseIdx (t.columns.idxOf key)).idxOf name) = cell row (t.columns.idxOf name) :=
  RowSet.cell_eraseIdx shape.nodup h (idxOf_ne h ne) row

/-- The rows of an item have their places with the column of items or without it. -/
theorem place_ofItem (item : Datum) :
    place axis ((t.ofItem key item).columns.idxOf bucketField) [] (t.ofItem key item).rows
      = (place axis (t.columns.idxOf bucketField) [] (t.rowsOf key item)).map
        (List.map (Prod.map id (·.eraseIdx (t.columns.idxOf key)))) :=
  place_map (shape.cell_eraseIdx shape.bucket_mem shape.key_ne.symm) (t.rowsOf key item) []

omit shape in
/-- Rows that are as wide as the columns stay so when both lose one. -/
theorem widths_ofItem (widths : ∀ row ∈ t.rows, row.length = t.columns.length) (item : Datum) :
    ∀ row ∈ (t.ofItem key item).rows, row.length = (t.ofItem key item).columns.length := by
  show ∀ row ∈ (t.rowsOf key item).map _, _ = (t.columns.eraseIdx _).length
  rw [List.forall_mem_map]
  intro row h
  rw [List.length_eraseIdx, List.length_eraseIdx, widths row (List.mem_of_mem_filter h)]

/-- **The series of an item is completed when its rows have their places** in the buckets. -/
theorem completed_ofItem_eq_ok_iff (defined : p.buckets start stop = .ok axis)
    (widths : ∀ row ∈ t.rows, row.length = t.columns.length) (item : Datum) :
    (t.ofItem key item).completed p start stop = .ok c ↔
      ∃ placed, place axis (t.columns.idxOf bucketField) [] (t.rowsOf key item) = .ok placed ∧
        t.itemAnswer key item p axis placed = c := by
  have bucket := mem_columns_ofItem shape.bucket_mem shape.key_ne.symm item
  rw [completed_eq_ok_iff bucket defined, and_iff_right (widths_ofItem widths item),
    shape.place_ofItem]
  simp only [map_eq_ok_iff, exists_exists_and_eq_and]
  rfl

/-- In a column of values the series of an item has what its rows have there. -/
theorem get?_itemAnswer (h : name ∈ t.columns) (ne : name ≠ key) (not_bucket : name ≠ bucketField)
    (item : Datum) (placed : List (Int × List Datum)) :
    (t.itemAnswer key item p axis placed).get? name
      = some (.list (seriesOf axis placed (t.columns.idxOf name))) := by
  have there := mem_columns_ofItem h ne item
  have free : (t.ofItem key item).columns.idxOf name
      ∉ [(t.ofItem key item).columns.idxOf bucketField] := by
    rw [List.mem_singleton]
    exact idxOf_ne there not_bucket
  rw [itemAnswer, get?_insertColumns (shape.nodup.eraseIdx _) there free]
  exact congrArg (fun series => some (FieldValue.list series))
    (seriesOf_map (shape.cell_eraseIdx h ne) placed)

/-- The names of the fields that describe the buckets are not those of a value. -/
theorem not_value_of_mem_axisFields (h : name ∈ axisFields) :
    name = bucketField ∨ name ∉ t.columns := by
  simp only [axisFields, List.mem_cons, List.not_mem_nil, or_false] at h
  rcases h with rfl | rfl | rfl
  · exact .inl rfl
  · exact .inr shape.label_not_mem
  · exact .inr shape.seconds_not_mem

/-- In the fields of the axis the series of an item describes the buckets. -/
theorem get?_itemAnswer_of_mem_axisFields (h : name ∈ axisFields) (item : Datum)
    (placed : List (Int × List Datum)) :
    (t.itemAnswer key item p axis placed).get? name = (insertAxis p axis .empty).get? name := by
  refine get?_insertColumns_of_taken (shape.nodup.eraseIdx _) ?_ _ _
  rcases shape.not_value_of_mem_axisFields h with rfl | absent
  · exact .inr (List.mem_singleton.2 rfl)
  · exact .inl fun there => absent (List.mem_of_mem_eraseIdx there)

end Itemized

/-! ## Pivots and the rows of the items

What a pivot says is stated field by field, in terms of the rows of single items. -/

/-- Over a window, a pivot shows the completed series of every item, side by side. It has no values
of its own, and none of its own faults: whatever is wrong with the rows is wrong with those of some
item, or with a width. -/
structure SeriesByItem (t : RowSet) (key : String) (p : Period) (start stop : Date) : Prop where
  /-- The pivot succeeds exactly when rows have the width of the columns and the rows of every item
  can be completed. -/
  succeeds_iff : (∃ a, t.pivotedSeries key p start stop = .ok a) ↔
    (∀ row ∈ t.rows, row.length = t.columns.length) ∧
      ∀ item ∈ t.items key, ∃ c, (t.ofItem key item).completed p start stop = .ok c
  /-- It lists the items. -/
  items : ∀ {a}, t.pivotedSeries key p start stop = .ok a → a.list? key = some (t.items key)
  /-- For every column of values it lists the series of the items, in their order. -/
  series : ∀ {a}, t.pivotedSeries key p start stop = .ok a →
    ∀ name ∈ t.columns, name ≠ key → name ≠ bucketField → ∃ series,
      a.grouped? name = some series ∧
        List.Forall₂ (fun item ds => ∃ c, (t.ofItem key item).completed p start stop = .ok c ∧
          c.list? name = some ds) (t.items key) series
  /-- It describes the buckets as the series of any item does. -/
  axis : ∀ {a c item}, t.pivotedSeries key p start stop = .ok a →
    (t.ofItem key item).completed p start stop = .ok c →
      ∀ field ∈ axisFields, a.get? field = c.get? field

/-- Without buckets, a pivot shows the value of every item. That no item is repeated is a condition
and not a consequence: two rows of one item are refused and not added. -/
structure ValuesByItem (t : RowSet) (key : String) : Prop where
  /-- The pivot succeeds exactly when rows have the width of the columns and no item is repeated. -/
  succeeds_iff : (∃ a, t.pivoted key = .ok a) ↔
    (∀ row ∈ t.rows, row.length = t.columns.length) ∧ (t.values key).Nodup
  /-- It lists the items. -/
  items : ∀ {a}, t.pivoted key = .ok a → a.list? key = some (t.values key)
  /-- For every column of values it lists them item by item, where an absent one is zero. -/
  values : ∀ {a}, t.pivoted key = .ok a → ∀ name ∈ t.columns, name ≠ key →
    a.list? name = some ((t.values name).map Datum.zeroIfNull)

section

variable (shape : t.Itemized key)
include shape

/-- The places of all rows give both sides. -/
theorem seriesByItem (defined : p.buckets start stop = .ok axis) :
    t.SeriesByItem key p start stop where
  succeeds_iff := by
    simp only [pivotedSeries_eq_ok_iff shape defined, exists_and_left, exists_result,
      exists_forall₂_iff]
    refine and_congr_right fun widths => forall₂_congr fun item _ => ?_
    simp only [shape.completed_ofItem_eq_ok_iff defined widths, exists_result]
  items h := by
    obtain ⟨_, placed, _, rfl⟩ := (pivotedSeries_eq_ok_iff shape defined).1 h
    exact Answer.list?_of_get? (Answer.get?_insert_self ..)
  series h name there ne not_bucket := by
    obtain ⟨widths, placed, places, rfl⟩ := (pivotedSeries_eq_ok_iff shape defined).1 h
    have free : t.columns.idxOf name ∉ [t.columns.idxOf key, t.columns.idxOf bucketField] := by
      simp only [List.mem_cons, List.not_mem_nil, or_false, not_or]
      exact ⟨idxOf_ne there ne, idxOf_ne there not_bucket⟩
    refine ⟨placed.map fun rows => seriesOf axis rows (t.columns.idxOf name),
      Answer.grouped?_of_get? ?_, ?_⟩
    · rw [Answer.get?_insert_of_ne ne, get?_insertColumns shape.nodup there free]
    · rw [List.forall₂_map_right_iff]
      refine places.imp fun item rows here => ⟨t.itemAnswer key item p axis rows, ?_, ?_⟩
      · exact (shape.completed_ofItem_eq_ok_iff defined widths item).2 ⟨rows, here, rfl⟩
      · exact Answer.list?_of_get? (shape.get?_itemAnswer there ne not_bucket item rows)
  axis {a c item} h hc field there := by
    obtain ⟨widths, placed, _, rfl⟩ := (pivotedSeries_eq_ok_iff shape defined).1 h
    obtain ⟨_, _, rfl⟩ := (shape.completed_ofItem_eq_ok_iff defined widths item).1 hc
    have other : field ≠ key := by
      rcases shape.not_value_of_mem_axisFields there with rfl | absent
      · exact shape.key_ne.symm
      · exact fun same => absent (same ▸ shape.key_mem)
    have taken : field ∉ t.columns ∨ t.columns.idxOf field
        ∈ [t.columns.idxOf key, t.columns.idxOf bucketField] := by
      rcases shape.not_value_of_mem_axisFields there with rfl | absent
      · exact .inr (List.mem_cons_of_mem _ List.mem_cons_self)
      · exact .inl absent
    rw [Answer.get?_insert_of_ne other, get?_insertColumns_of_taken shape.nodup taken,
      shape.get?_itemAnswer_of_mem_axisFields there]

/-- The rows themselves give both sides, if no item is repeated. -/
theorem valuesByItem : t.ValuesByItem key where
  succeeds_iff := by
    simp only [pivoted_eq_ok_iff shape.key_mem shape.exact, forall₂_rowsOf_iff shape.exact,
      exists_and_left, exists_result]
    exact and_congr_right fun _ => and_iff_left ⟨_, rfl⟩
  items h := by
    obtain ⟨_, rows, single, rfl⟩ := (pivoted_eq_ok_iff shape.key_mem shape.exact).1 h
    obtain ⟨nodup, rfl⟩ := (forall₂_rowsOf_iff shape.exact).1 single
    rw [items, items_eq_self shape.exact nodup]
    exact Answer.list?_of_get? (Answer.get?_insert_self ..)
  values h name there ne := by
    obtain ⟨_, rows, single, rfl⟩ := (pivoted_eq_ok_iff shape.key_mem shape.exact).1 h
    obtain ⟨-, rfl⟩ := (forall₂_rowsOf_iff shape.exact).1 single
    have free : t.columns.idxOf name ∉ [t.columns.idxOf key] := by
      rw [List.mem_singleton]
      exact idxOf_ne there ne
    refine Answer.list?_of_get? ?_
    rw [Answer.get?_insert_of_ne ne, get?_insertColumns shape.nodup there free, values,
      List.map_map]
    rfl

end

/-- **A pivot is what the rows of the items say by themselves.** The items of a well-formed column
are its values in the order in which they appear, each of them once. Over a window, a pivot is the
completed series of every item; without one, it is the value of every item.

The rows are arbitrary within their columns. They may have holes, name buckets that the window does
not have, or name one of them twice, and the pivot then fails exactly where completion does. An
absent item is an item like any other, and is not merged with a text that reads like it. -/
theorem pivot_by_item (shape : t.Itemized key) (defined : p.buckets start stop = .ok axis) :
    ((t.items key).Nodup ∧ ∀ d, d ∈ t.items key ↔ d ∈ t.values key) ∧
      t.SeriesByItem key p start stop ∧ t.ValuesByItem key :=
  ⟨⟨nodup_items shape.exact, fun _ => mem_items_iff shape.exact⟩,
    seriesByItem shape defined, valuesByItem shape⟩

/-- Rows of two months about the number 1, the text of the same digit, an absent item and a text
that reads like one. -/
def mixedRows : RowSet :=
  ⟨["id", "repo", "commits"],
    [[.int 24301, .int 1, .int 5], [.int 24301, .text "1", .int 2], [.int 24302, .null, .int 3],
      [.int 24302, .text "null", .null], [.int 24302, .int 1, .int 7]]⟩

theorem itemized_mixedRows : mixedRows.Itemized "repo" where
  nodup := by decide
  key_mem := by decide
  bucket_mem := by decide
  key_ne := by decide
  label_not_mem := by decide
  seconds_not_mem := by decide
  exact d h := by
    have listed : d ∈ [.int 1, .text "1", .null, .text "null", .int 1] := h
    simp only [List.mem_cons, List.not_mem_nil, or_false] at listed
    rcases listed with rfl | rfl | rfl | rfl | rfl <;> trivial

/-- The four items are different, their series are listed, and the second row about the number 1
leaves no place for it in a pivot without buckets. -/
theorem pivot_by_item_mixedRows :
    mixedRows.items "repo" = [.int 1, .text "1", .null, .text "null"] ∧
      (∃ a, mixedRows.pivotedSeries "repo" .month ⟨20103, by decide, by decide⟩
        ⟨20157, by decide, by decide⟩ = .ok a) ∧
      (¬ ∃ a, mixedRows.pivoted "repo" = .ok a) ∧
      mixedRows.SeriesByItem "repo" .month ⟨20103, by decide, by decide⟩
        ⟨20157, by decide, by decide⟩ ∧ mixedRows.ValuesByItem "repo" := by
  obtain ⟨axis, defined⟩ : ∃ axis, Period.month.buckets ⟨20103, by decide, by decide⟩
      ⟨20157, by decide, by decide⟩ = .ok axis := ⟨_, rfl⟩
  obtain ⟨_, series, values⟩ := pivot_by_item itemized_mixedRows defined
  refine ⟨rfl, ⟨_, rfl⟩, fun succeeds => ?_, series, values⟩
  have again : Datum.int 1 ∈ [.text "1", .null, .text "null", .int 1] :=
    List.mem_append_right [_, _, _] List.mem_cons_self
  exact (List.nodup_cons.1 (values.succeeds_iff.1 succeeds).2).1 again

end RowSet

end ActivityMetrics
