import ActivityMetrics.Proofs.Distinct
import ActivityMetrics.Proofs.Outcome
import ActivityMetrics.Proofs.Result.Answer
import ActivityMetrics.Result.RowSet

/-!
# The answers of well-shaped rows

Rows of which each is about a bucket of its own, an item of its own, or a bucket and an item, are
completed and pivoted without a fault. What they say is a function that is zero wherever there is no
row, and the answer lists the values of this function: over the whole axis (`RowSet.completed_eq`),
for every item (`RowSet.pivoted_eq`), or both (`RowSet.pivotedSeries_eq`).

This is the direction in which rows of a query are used. The database answers with rows for what
there is, and says nothing of the rest; the answer that a client gets has a value for everything.
What the query counts is known as a function, of the bucket and of the item, and so it is convenient
to have the answer as this function too, and never to see the rows again. The other direction, what
can be said of rows that are given, is in the modules on completion and on rows by item.

Places are found one after another, and a row is refused if its place is taken. The lemma on places
(`RowSet.place_eq_ok_iff`) takes the places that are taken already as a parameter, which is what the
induction over rows is on.
-/

namespace ActivityMetrics

open Calendar

namespace RowSet

variable {ε : Type}

/-- The check is passed by rows that are as wide as the columns. It reports the first row that is
not. -/
theorem checkWidths_eq_ok_iff {t : RowSet} :
    t.checkWidths = .ok () ↔ ∀ row ∈ t.rows, row.length = t.columns.length := by
  have found : (∀ row ∈ t.rows, row.length = t.columns.length) ↔
      (t.rows.zipIdx.find? fun x => x.1.length != t.columns.length) = none := by
    rw [List.find?_eq_none]
    simp only [bne_iff_ne, ne_eq, not_not]
    refine ⟨fun wide x there => wide x.1 (List.fst_mem_of_mem_zipIdx there), fun wide row hr => ?_⟩
    obtain ⟨i, hi, rfl⟩ := List.getElem_of_mem hr
    exact wide (t.rows[i], i) (List.mk_mem_zipIdx_iff_getElem?.2 (List.getElem?_eq_getElem hi))
  rw [found]
  unfold checkWidths
  cases t.rows.zipIdx.find? fun x => x.1.length != t.columns.length with
  | none => exact ⟨fun _ => rfl, fun _ => rfl⟩
  | some wrong => exact ⟨nofun, nofun⟩

/-- Rows that are made with the width of the columns pass it. -/
theorem checkWidths_eq_ok {t : RowSet} {xs : List ε} {row : ε → List Datum}
    (rows : t.rows = xs.map row) (width : ∀ x, (row x).length = t.columns.length) :
    t.checkWidths = .ok () := by
  rw [checkWidths_eq_ok_iff, rows, List.forall_mem_map]
  exact fun x _ => width x

/-! ## Totals

A query without buckets and items answers with one row of one value. -/

/-- The total of a single value. -/
theorem total_eq (name : String) (n : Int) :
    (⟨[name], [[.int n]]⟩ : RowSet).total = .ok (Answer.empty.insert name (.scalar (.int n))) :=
  rfl

/-! ## Series

The rows of a series name their buckets by numbers. A row is read by the cell with this number, and
by the cells with its values. -/

section

variable {p : Period} {start stop : Date} {axis : List Period.Bucket}

/-- Only an integer is read as one. -/
theorem integer?_eq_some_iff {d : Datum} {i : Int} : d.integer? = some i ↔ d = .int i := by
  cases d with
  | int j => rw [Datum.integer?, Option.some.injEq, Datum.int.injEq]
  | float | text | null => exact ⟨nofun, nofun⟩

/-- The bucket of a row is named by its cell, if the axis has it. A number of a bucket that the axis
does not have is refused like a cell without a number. -/
theorem bucketOf_eq_ok_iff {bucketColumn : Nat} {row : List Datum} {id : Int} :
    bucketOf axis bucketColumn row = .ok id ↔
      cell row bucketColumn = .int id ∧ ∃ b ∈ axis, b.id = id := by
  have there : ∀ i, (axis.any fun b => b.id == i) = true ↔ ∃ b ∈ axis, b.id = i := fun i => by
    simp only [List.any_eq_true, beq_iff_eq]
  unfold bucketOf
  split
  · rename_i unnamed
    refine ⟨nofun, fun ⟨named, _⟩ => ?_⟩
    rw [named] at unnamed
    cases unnamed
  · rename_i i named
    rw [integer?_eq_some_iff] at named
    rw [named, Datum.int.injEq]
    split
    · rename_i inside
      rw [Except.ok.injEq, and_iff_left_of_imp]
      rintro rfl
      exact (there i).1 inside
    · rename_i outside
      refine ⟨nofun, ?_⟩
      rintro ⟨rfl, inside⟩
      exact absurd ((there i).2 inside) outside

/-- The number in a cell, 0 if it holds none. It is only used of cells that do. -/
def numberIn (column : Nat) (row : List Datum) : Int :=
  (cell row column).integer?.getD 0

/-- The number in the cell of a row that names a bucket. -/
theorem numberIn_eq {column : Nat} {row : List Datum} {id : Int} (h : cell row column = .int id) :
    numberIn column row = id := by
  rw [numberIn, h]
  rfl

/-- **Rows are placed when they are in different buckets of the axis**, none of which is taken. -/
theorem place_eq_ok_iff {bucketColumn : Nat} {rows : List (List Datum)}
    {placed result : List (Int × List Datum)} :
    place axis bucketColumn placed rows = .ok result ↔
      (∀ row ∈ rows, ∃ b ∈ axis, cell row bucketColumn = .int b.id) ∧
      (rows.map (numberIn bucketColumn)).Nodup ∧
      (∀ row ∈ rows, placed.lookup (numberIn bucketColumn row) = none) ∧
      placed ++ rows.map (fun row => (numberIn bucketColumn row, row)) = result := by
  induction rows generalizing placed with
  | nil => simp [place]
  | cons row rows ih =>
    -- one row: it names a bucket of the axis whose place is free, and the others are placed after
    -- it
    have step : place axis bucketColumn placed (row :: rows) = .ok result ↔
        ∃ id, (cell row bucketColumn = .int id ∧ ∃ b ∈ axis, b.id = id) ∧
          placed.lookup id = none ∧
          place axis bucketColumn (placed ++ [(id, row)]) rows = .ok result := by
      rw [place, bind_eq_ok_iff]
      refine exists_congr fun id => and_congr bucketOf_eq_ok_iff ?_
      cases placed.lookup id with
      | none => exact (and_iff_right rfl).symm
      | some taken => exact ⟨nofun, fun h => nomatch h.1⟩
    -- the place of the first row is taken for the others
    have free : ∀ id, (∀ other ∈ rows,
        (placed ++ [(id, row)]).lookup (numberIn bucketColumn other) = none) ↔
        id ∉ rows.map (numberIn bucketColumn) ∧
          ∀ other ∈ rows, placed.lookup (numberIn bucketColumn other) = none := fun id => by
      simp only [List.lookup_append, Option.or_eq_none_iff, List.mem_map, not_exists, not_and]
      rw [forall₂_and, and_comm]
      refine and_congr_left fun _ => forall₂_congr fun other _ => ?_
      rw [List.lookup_cons]
      by_cases same : numberIn bucketColumn other = id
      · simp [same]
      · simp [same, beq_false_of_ne same]
    rw [step, List.forall_mem_cons, List.forall_mem_cons, List.map_cons, List.map_cons,
      List.nodup_cons]
    simp only [ih, free, List.append_assoc, List.singleton_append]
    constructor
    · rintro ⟨id, ⟨named, b, hb, rfl⟩, untaken, inside, nodup, ⟨new, others⟩, rfl⟩
      rw [numberIn_eq named]
      exact ⟨⟨⟨b, hb, named⟩, inside⟩, ⟨new, nodup⟩, ⟨untaken, others⟩, rfl⟩
    · rintro ⟨⟨⟨b, hb, named⟩, inside⟩, ⟨new, nodup⟩, ⟨untaken, others⟩, rfl⟩
      rw [numberIn_eq named] at new untaken ⊢
      exact ⟨b.id, ⟨named, b, hb, rfl⟩, untaken, inside, nodup, ⟨new, others⟩, rfl⟩

/-- Rows that are told apart by their buckets all have their place. -/
theorem place_eq {bucketColumn : Nat} {ids : List Int} {row : Int → List Datum}
    (cells : ∀ i, cell (row i) bucketColumn = .int i) (nodup : ids.Nodup)
    (inside : ∀ i ∈ ids, ∃ b ∈ axis, b.id = i) :
    place axis bucketColumn [] (ids.map row) = .ok (ids.map fun i => (i, row i)) := by
  have number : ∀ i, numberIn bucketColumn (row i) = i := fun i => numberIn_eq (cells i)
  rw [place_eq_ok_iff]
  simp only [List.forall_mem_map, List.map_map, Function.comp_def, number, List.map_id']
  refine ⟨fun i hi => ?_, nodup, fun _ _ => rfl, List.nil_append _⟩
  obtain ⟨b, hb, rfl⟩ := inside i hi
  exact ⟨b, hb, cells b.id⟩

/-- The value of a bucket that has a row is that of the row; of another it is zero. So a function
that is zero where there is no row is listed as it is. -/
theorem seriesOf_eq {ids : List Int} {row : Int → List Datum} {column : Nat} {v : Int → Nat}
    (cells : ∀ i ∈ ids, cell (row i) column = .int (v i)) (nodup : ids.Nodup)
    (rest : ∀ i, i ∉ ids → v i = 0) :
    seriesOf axis (ids.map fun i => (i, row i)) column = axis.map fun b => .int (v b.id) := by
  refine List.map_congr_left fun b _ => ?_
  by_cases there : b.id ∈ ids
  · have found : (ids.map fun i => (i, row i)).lookup b.id = some (row b.id) :=
      lookup_map_of_mem (fun i => i) row (by rwa [List.map_id']) there
    rw [found, Option.elim_some, cells b.id there]
    rfl
  · have absent : (ids.map fun i => (i, row i)).lookup b.id = none :=
      lookup_map_of_not_mem (fun i => i) row (by rwa [List.map_id'])
    rw [absent, Option.elim_none, rest b.id there]
    rfl

/-- **A completed series lists the values of all buckets.** -/
theorem completed_eq {t : RowSet} {name : String} {ids : List Int} {v : Int → Nat}
    (columns : t.columns = [bucketField, name])
    (rows : t.rows = ids.map fun i => [.int i, .int (v i)])
    (buckets : p.buckets start stop = .ok axis) (nodup : ids.Nodup)
    (inside : ∀ i ∈ ids, ∃ b ∈ axis, b.id = i) (rest : ∀ i, i ∉ ids → v i = 0) :
    t.completed p start stop
      = .ok ((insertAxis p axis .empty).insert name
        (.list (axis.map fun b => .int (v b.id)))) := by
  have widths := checkWidths_eq_ok rows fun _ => by rw [columns]; rfl
  have bucketColumn : t.column bucketField = .ok 0 := by
    rw [column, columns]
    rfl
  have values : t.valueColumns [0] = [(1, name)] := by
    rw [valueColumns, columns]
    rfl
  have placed : place axis 0 [] (ids.map fun i => [.int i, .int (v i)])
      = .ok (ids.map fun i => (i, [.int i, .int (v i)])) :=
    place_eq (fun _ => rfl) nodup inside
  have series : seriesOf axis (ids.map fun i => (i, [.int i, .int (v i)])) 1
      = axis.map fun b => .int (v b.id) :=
    seriesOf_eq (fun _ _ => rfl) nodup rest
  simp only [completed, widths, bucketColumn, buckets, rows, placed, values, List.foldl_cons,
    List.foldl_nil, series, bind, Except.bind, pure, Except.pure]

/-- The fields that describe the buckets of a series. -/
def axisFields : List String :=
  [bucketField, labelField, secondsField]

/-- The fields that describe buckets have an entry for each of them. -/
theorem lists_insertAxis (p : Period) (axis : List Period.Bucket) {a : Answer}
    (h : a.Lists axis.length) : (insertAxis p axis a).Lists axis.length :=
  ((h.insert bucketField (List.length_map _)).insert labelField (List.length_map _)).insert
    secondsField (List.length_map _)

/-- The first field of an axis gives the number of each bucket. -/
theorem get?_insertAxis_bucketField (p : Period) (axis : List Period.Bucket) (a : Answer) :
    (insertAxis p axis a).get? bucketField = some (.list (axis.map fun b => .int b.id)) := by
  rw [insertAxis, Answer.get?_insert_of_ne (by decide), Answer.get?_insert_of_ne (by decide),
    Answer.get?_insert_self]

/-- The second field of an axis gives the label of each bucket. -/
theorem get?_insertAxis_labelField (p : Period) (axis : List Period.Bucket) (a : Answer) :
    (insertAxis p axis a).get? labelField
      = some (.list (axis.map fun b => .text (p.label b.start))) := by
  rw [insertAxis, Answer.get?_insert_of_ne (by decide), Answer.get?_insert_self]

/-- The third field of an axis gives the second at which each bucket begins. -/
theorem get?_insertAxis_secondsField (p : Period) (axis : List Period.Bucket) (a : Answer) :
    (insertAxis p axis a).get? secondsField
      = some (.list (axis.map fun b => .int b.start.unixMidnight)) := by
  rw [insertAxis, Answer.get?_insert_self]

/-- No other field is touched. -/
theorem get?_insertAxis_of_not_mem {name : String} (h : name ∉ axisFields) (p : Period)
    (axis : List Period.Bucket) (a : Answer) : (insertAxis p axis a).get? name = a.get? name := by
  simp only [axisFields, List.mem_cons, List.not_mem_nil, or_false, not_or] at h
  rw [insertAxis, Answer.get?_insert_of_ne h.2.2, Answer.get?_insert_of_ne h.2.1,
    Answer.get?_insert_of_ne h.1]

end

/-! ## Pivots

Rows are collected by their items. What it means for two values to name the same item is a parameter
here, since a query names items by texts and other rows by other values. -/

section

variable {κ : Type} [DecidableEq κ] {datum : κ → Datum}

/-- A row goes to its item. An item that is new comes behind the others, with this row alone. -/
theorem addToItem_eq (exact : ∀ a b, (datum a).sameItem (datum b) = decide (a = b)) {ks : List κ}
    {g : κ → List (List Datum)} {a : κ} (nodup : ks.Nodup) (new : a ∉ ks → g a = [])
    (row : List Datum) :
    addToItem (datum a) row (ks.map fun k => (datum k, g k))
      = (keepFirst ks a).map fun k => (datum k, if k = a then g k ++ [row] else g k) := by
  induction ks with
  | nil =>
    show [(datum a, [row])] = [(datum a, if a = a then g a ++ [row] else g a)]
    rw [if_pos rfl, new List.not_mem_nil, List.nil_append]
  | cons k ks ih =>
    rw [List.nodup_cons] at nodup
    rw [List.map_cons, addToItem]
    -- the row belongs to the first item or to one after it
    by_cases same : k = a
    · subst same
      have others : ks.map (fun k' => (datum k', if k' = k then g k' ++ [row] else g k'))
          = ks.map fun k' => (datum k', g k') :=
        List.map_congr_left fun k' hk' => by
          rw [if_neg fun same : k' = k => nodup.1 (same ▸ hk')]
      have present : keepFirst (k :: ks) k = k :: ks :=
        if_pos (List.contains_iff_mem.2 List.mem_cons_self)
      rw [present, List.map_cons, others, if_pos rfl]
      exact if_pos (by rw [exact, decide_eq_true rfl])
    · have later := ih nodup.2 fun absent =>
        new fun there => (List.mem_cons.1 there).elim (fun h => same h.symm) absent
      rw [keepFirst_cons (Ne.symm same), List.map_cons, if_neg same, later]
      exact if_neg (by rw [exact, decide_eq_false same]; exact Bool.false_ne_true)

/-- **The items of rows and the rows of every item**, items in the order in which they appear. The
induction is on the rows from their end, as the last row is added last. -/
theorem itemsOf_eq (exact : ∀ a b, (datum a).sameItem (datum b) = decide (a = b))
    {keyColumn : Nat} {xs : List ε} {row : ε → List Datum} {item : ε → κ}
    (cells : ∀ x ∈ xs, cell (row x) keyColumn = datum (item x)) :
    itemsOf keyColumn (xs.map row)
      = (xs.map item).eraseDups.map fun k =>
        (datum k, (xs.filter fun x => item x = k).map row) := by
  induction xs using List.reverseRecOn with
  | nil => rfl
  | append_singleton xs x ih =>
    rw [List.forall_mem_append, List.forall_mem_singleton] at cells
    rw [List.map_append, itemsOf, List.foldl_append]
    show addToItem (cell (row x) keyColumn) (row x) (itemsOf keyColumn (xs.map row)) = _
    rw [ih cells.1, cells.2, addToItem_eq exact (nodup_eraseDups _), List.map_append]
    · show _ = (List.map item xs ++ [item x]).eraseDups.map _
      rw [eraseDups_append_singleton]
      refine List.map_congr_left fun k _ => ?_
      rw [List.filter_append, List.map_append, List.filter_cons]
      by_cases same : k = item x
      · rw [if_pos same, if_pos (decide_eq_true same.symm)]
        rfl
      · rw [if_neg same, if_neg fun h => same (of_decide_eq_true h).symm]
        exact congrArg (Prod.mk _) (List.append_nil _).symm
    · intro absent
      rw [List.map_eq_nil_iff, List.filter_eq_nil_iff]
      intro y hy same
      refine absent (List.mem_eraseDups.2 ?_)
      exact List.mem_map.2 ⟨y, hy, of_decide_eq_true same⟩

end

/-- Texts name the same item when they are the same. -/
theorem sameItem_text (s s' : String) :
    (Datum.text s).sameItem (.text s') = decide (s = s') :=
  rfl

/-- **A pivot lists the value of every item.** Each item has a single row, which is what makes its
value one. -/
theorem pivoted_eq {t : RowSet} {key name : String} {items : List String} {v : String → Nat}
    (columns : t.columns = [key, name])
    (rows : t.rows = items.map fun k => [.text k, .int (v k)]) (nodup : items.Nodup) :
    t.pivoted key
      = .ok ((Answer.empty.insert name (.list (items.map fun k => .int (v k)))).insert key
        (.list (items.map .text))) := by
  have widths := checkWidths_eq_ok rows fun _ => by rw [columns]; rfl
  have keyColumn : t.column key = .ok 0 := by
    rw [column, columns, List.idxOf?_cons, if_pos (beq_self_eq_true key)]
  have values : t.valueColumns [0] = [(1, name)] := by
    rw [valueColumns, columns]
    rfl
  -- every item has a single row
  have cells : ∀ k : String, cell [.text k, .int (v k)] 0 = .text (id k) := fun _ => rfl
  have found : itemsOf 0 (items.map fun k => [.text k, .int (v k)])
      = items.map fun k => (.text k, [[.text k, .int (v k)]]) := by
    rw [itemsOf_eq sameItem_text fun x _ => cells x, List.map_id, eraseDups_eq_self nodup]
    refine List.map_congr_left fun k hk => ?_
    simp only [id_eq, filter_eq_singleton nodup hk, List.map_cons, List.map_nil]
  have single : (items.map fun k => (Datum.text k, [[.text k, .int (v k)]])).mapM singleRow
      = .ok (items.map fun k => [.text k, .int (v k)]) := by
    rw [List.mapM_map]
    exact mapM_eq_ok fun _ _ => rfl
  simp only [pivoted, widths, keyColumn, rows, found, single, values, List.foldl_cons,
    List.foldl_nil, List.map_map, bind, Except.bind, pure, Except.pure]
  rfl

/-! ## Pivoted series

The rows of a series by item are those of the buckets one after another, and within a bucket those
of its items. An item need not have a row in every bucket. -/

/-- The entries of some buckets, each with its items. -/
def entries (ids : List Int) (items : Int → List String) : List (Int × String) :=
  ids.flatMap fun i => (items i).map fun k => (i, k)

/-- The row of an entry: the bucket, the item, and the value. -/
def entryRow (v : Int → String → Nat) (x : Int × String) : List Datum :=
  [.int x.1, .text x.2, .int (v x.1 x.2)]

/-- The items of some buckets, each of them once. -/
def allItems (ids : List Int) (items : Int → List String) : List String :=
  (ids.flatMap items).eraseDups

/-- The buckets that have an item, in order. -/
def bucketsWith (ids : List Int) (items : Int → List String) (k : String) : List Int :=
  ids.filter fun i => k ∈ items i

section

variable {ids : List Int} {items : Int → List String} {v : Int → String → Nat}

/-- The entries of an item are one for each bucket that has it. -/
theorem filter_entries (nodup : ∀ i ∈ ids, (items i).Nodup) (k : String) :
    (entries ids items).filter (fun x => x.2 = k)
      = (bucketsWith ids items k).map fun i => (i, k) := by
  unfold entries bucketsWith
  induction ids with
  | nil => rfl
  | cons i ids ih =>
    rw [List.flatMap_cons, List.filter_append, ih fun j hj => nodup j (List.mem_cons_of_mem _ hj),
      List.filter_map, List.filter_cons]
    show ((items i).filter (fun k' => k' = k)).map _ ++ _ = _
    by_cases there : k ∈ items i
    · rw [filter_eq_singleton (nodup i List.mem_cons_self) there, if_pos (decide_eq_true there)]
      rfl
    · have none_left : (items i).filter (fun k' => k' = k) = [] :=
        List.filter_eq_nil_iff.2 fun k' hk' same => there (of_decide_eq_true same ▸ hk')
      rw [none_left, if_neg fun h => there (of_decide_eq_true h)]
      rfl

/-- The items of the entries are those of the buckets. -/
theorem map_snd_entries : (entries ids items).map Prod.snd = ids.flatMap items := by
  have own : ∀ i, ((items i).map fun k => (i, k)).map Prod.snd = items i := fun i => by
    rw [List.map_map]
    exact List.map_id _
  rw [entries, List.map_flatMap]
  simp only [own]

/-- Collected by items, the rows are those of the buckets that have the item. -/
theorem itemsOf_entries (nodup : ∀ i ∈ ids, (items i).Nodup) :
    itemsOf 1 ((entries ids items).map (entryRow v)) = (allItems ids items).map fun k =>
      (.text k, (bucketsWith ids items k).map fun i => entryRow v (i, k)) := by
  have cells : ∀ x, cell (entryRow v x) 1 = .text (Prod.snd x) := fun _ => rfl
  rw [itemsOf_eq sameItem_text fun x _ => cells x, map_snd_entries]
  refine List.map_congr_left fun k _ => ?_
  rw [filter_entries nodup, List.map_map]
  rfl

/-- The series of an item lists its values over all buckets, with zero for those that do not have
it. -/
theorem seriesOf_entries {axis : List Period.Bucket} (nodup : ids.Nodup)
    (rest : ∀ i k, ¬ (i ∈ ids ∧ k ∈ items i) → v i k = 0) (k : String) :
    seriesOf axis ((bucketsWith ids items k).map fun i => (i, entryRow v (i, k))) 2
      = axis.map fun b => .int (v b.id k) := by
  have cells : ∀ i ∈ bucketsWith ids items k, cell (entryRow v (i, k)) 2 = .int (v i k) :=
    fun _ _ => rfl
  refine seriesOf_eq cells (nodup.filter _) fun i absent => ?_
  refine rest i k fun ⟨hi, hk⟩ => absent ?_
  exact List.mem_filter.2 ⟨hi, decide_eq_true hk⟩

/-- **A pivoted series lists the values of all buckets for every item.** -/
theorem pivotedSeries_eq {t : RowSet} {key name : String} {p : Period} {start stop : Date}
    {axis : List Period.Bucket} (columns : t.columns = [bucketField, key, name])
    (rows : t.rows = (entries ids items).map (entryRow v)) (other : key ≠ bucketField)
    (buckets : p.buckets start stop = .ok axis) (nodup : ids.Nodup)
    (nodup_items : ∀ i ∈ ids, (items i).Nodup) (inside : ∀ i ∈ ids, ∃ b ∈ axis, b.id = i)
    (rest : ∀ i k, ¬ (i ∈ ids ∧ k ∈ items i) → v i k = 0) :
    t.pivotedSeries key p start stop
      = .ok (((insertAxis p axis .empty).insert name
        (.grouped ((allItems ids items).map fun k => axis.map fun b => .int (v b.id k)))).insert key
        (.list ((allItems ids items).map .text))) := by
  have widths := checkWidths_eq_ok rows fun _ => by rw [columns]; rfl
  have bucketColumn : t.column bucketField = .ok 0 := by
    rw [column, columns]
    rfl
  have keyColumn : t.column key = .ok 1 := by
    rw [column, columns, List.idxOf?_cons, if_neg (by simpa using other.symm), List.idxOf?_cons,
      if_pos (beq_self_eq_true key)]
    rfl
  have values : t.valueColumns [1, 0] = [(2, name)] := by
    rw [valueColumns, columns]
    rfl
  -- the rows of an item are about different buckets of the axis, so each of them finds its place
  have placed : ((allItems ids items).map fun k =>
        (Datum.text k, (bucketsWith ids items k).map fun i => entryRow v (i, k))).mapM
        (fun item => place axis 0 [] item.2)
      = .ok ((allItems ids items).map fun k =>
        (bucketsWith ids items k).map fun i => (i, entryRow v (i, k))) := by
    rw [List.mapM_map]
    refine mapM_eq_ok fun k _ => ?_
    have fit : ∀ i ∈ bucketsWith ids items k, ∃ b ∈ axis, b.id = i := fun i hi =>
      inside i (List.mem_filter.1 hi).1
    exact place_eq (fun _ => rfl) (nodup.filter _) fit
  simp only [pivotedSeries, widths, bucketColumn, keyColumn, buckets, rows,
    itemsOf_entries nodup_items, placed, values, List.foldl_cons, List.foldl_nil, List.map_map,
    Function.comp_def, seriesOf_entries nodup rest, bind, Except.bind, pure, Except.pure]

end

/-! ## Series that succeed

A series that succeeds says something about its rows, which is used where nothing is known of the
events behind them. -/

section

variable {axis : List Period.Bucket} {p : Period} {start stop : Date} {a : Answer}

/-- A row that is added is one of its item, and the rows of the others stay. -/
theorem exists_mem_addToItem (key : Datum) (row : List Datum)
    (items : List (Datum × List (List Datum))) :
    (∃ item ∈ addToItem key row items, row ∈ item.2) ∧
      ∀ item ∈ items, ∃ item' ∈ addToItem key row items, item.2 ⊆ item'.2 := by
  induction items with
  | nil => exact ⟨⟨_, List.mem_singleton.2 rfl, List.mem_singleton.2 rfl⟩, nofun⟩
  | cons item items ih =>
    obtain ⟨k, rows⟩ := item
    rw [addToItem]
    split
    · refine ⟨⟨_, List.mem_cons_self, List.mem_append_right _ (List.mem_singleton.2 rfl)⟩, ?_⟩
      rw [List.forall_mem_cons]
      refine ⟨⟨_, List.mem_cons_self, List.subset_append_left _ _⟩, fun other there => ?_⟩
      exact ⟨other, List.mem_cons_of_mem _ there, fun _ h => h⟩
    · obtain ⟨⟨new, there, added⟩, others⟩ := ih
      refine ⟨⟨new, List.mem_cons_of_mem _ there, added⟩, ?_⟩
      rw [List.forall_mem_cons]
      refine ⟨⟨_, List.mem_cons_self, fun _ h => h⟩, fun other there => ?_⟩
      obtain ⟨item', there', kept⟩ := others other there
      exact ⟨item', List.mem_cons_of_mem _ there', kept⟩

/-- Every row is one of an item, so that no row escapes being placed. -/
theorem exists_item_of_mem (keyColumn : Nat) {rows : List (List Datum)} {row : List Datum}
    (h : row ∈ rows) : ∃ item ∈ itemsOf keyColumn rows, row ∈ item.2 := by
  induction rows using List.reverseRecOn with
  | nil => cases h
  | append_singleton rows last ih =>
    have step : itemsOf keyColumn (rows ++ [last])
        = addToItem (cell last keyColumn) last (itemsOf keyColumn rows) := List.foldl_append
    obtain ⟨new, others⟩ := exists_mem_addToItem (cell last keyColumn) last (itemsOf keyColumn rows)
    rw [step]
    rcases List.mem_append.1 h with before | here
    · obtain ⟨item, there, own⟩ := ih before
      obtain ⟨item', there', kept⟩ := others item there
      exact ⟨item', there', kept own⟩
    · rw [List.mem_singleton.1 here]
      exact new

/-- **A completed series succeeds only with all rows in buckets of its window.** What is outside is
no reason for a smaller answer, but for none. -/
theorem exists_axis_of_completed {t : RowSet} {name : String}
    (columns : t.columns = [bucketField, name]) (h : t.completed p start stop = .ok a) :
    ∃ axis, p.buckets start stop = .ok axis ∧
      ∀ row ∈ t.rows, ∃ b ∈ axis, cell row 0 = .int b.id := by
  have bucketColumn : t.column bucketField = .ok 0 := by
    rw [column, columns]
    rfl
  obtain ⟨_, _, h⟩ := exists_of_bind_eq_ok h
  obtain ⟨_, first, h⟩ := exists_of_bind_eq_ok h
  obtain rfl := Except.ok.inj (bucketColumn.symm.trans first)
  obtain ⟨axis, buckets, h⟩ := exists_of_bind_eq_ok h
  obtain ⟨_, placed, _⟩ := exists_of_bind_eq_ok h
  exact ⟨axis, buckets, (place_eq_ok_iff.1 placed).1⟩

/-- **A pivoted series succeeds only with all rows in buckets of its window**, as a completed one
does. -/
theorem exists_axis_of_pivotedSeries {t : RowSet} {key name : String}
    (columns : t.columns = [bucketField, key, name])
    (h : t.pivotedSeries key p start stop = .ok a) :
    ∃ axis, p.buckets start stop = .ok axis ∧
      ∀ row ∈ t.rows, ∃ b ∈ axis, cell row 0 = .int b.id := by
  have bucketColumn : t.column bucketField = .ok 0 := by
    rw [column, columns]
    rfl
  obtain ⟨_, _, h⟩ := exists_of_bind_eq_ok h
  obtain ⟨keyColumn, _, h⟩ := exists_of_bind_eq_ok h
  obtain ⟨_, first, h⟩ := exists_of_bind_eq_ok h
  obtain rfl := Except.ok.inj (bucketColumn.symm.trans first)
  obtain ⟨axis, buckets, h⟩ := exists_of_bind_eq_ok h
  obtain ⟨_, placed, _⟩ := exists_of_bind_eq_ok h
  refine ⟨axis, buckets, fun row hrow => ?_⟩
  obtain ⟨item, there, own⟩ := exists_item_of_mem keyColumn hrow
  obtain ⟨_, fits⟩ := exists_mapM_eq_ok_iff.1 ⟨_, placed⟩ item there
  exact (place_eq_ok_iff.1 fits).1 row own

end

end RowSet

end ActivityMetrics
