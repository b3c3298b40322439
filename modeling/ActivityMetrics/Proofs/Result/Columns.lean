import ActivityMetrics.Proofs.Result.RowSet

/-!
# Columns and fields

When columns have different names, a name stands for one position. An answer that is filled column
by column then has a field for every column, found under its name (`RowSet.get?_insertColumns`), and
a column that is left out does not matter for the cells of the others (`RowSet.cell_eraseIdx`).

Rows are read by position and answers by name. Between the two stands the list of names, which a
query makes out of the metric and the dimension. Where a name is there twice, the second column is
put into the field of the first, and a value is lost without a fault; so every theorem about rows
asks for different names. The positions that are taken are those of columns that name the bucket or
the item of a row, which are no values.
-/

namespace ActivityMetrics

open Calendar

/-! ## Fields put one after the other

A field is found if it is put in once, and is otherwise what the answer had before. -/

namespace Answer

variable {cols : List (Nat × String)} {f : Nat → FieldValue} {a : Answer}

/-- Fields are put into an answer column by column. What is put in is a function of the position. -/
def insertColumns (a : Answer) (cols : List (Nat × String)) (f : Nat → FieldValue) : Answer :=
  cols.foldl (fun a x => a.insert x.2 (f x.1)) a

/-- A name that no column has is not touched. -/
theorem get?_insertColumns_of_not_mem {name : String} (h : name ∉ cols.map Prod.snd) :
    (a.insertColumns cols f).get? name = a.get? name := by
  unfold insertColumns
  induction cols generalizing a with
  | nil => rfl
  | cons x cols ih =>
    rw [List.map_cons, List.mem_cons, not_or] at h
    rw [List.foldl_cons, ih h.2, get?_insert_of_ne h.1]

/-- A column has its field, as no column after it has the same name. -/
theorem get?_insertColumns_of_mem (nodup : (cols.map Prod.snd).Nodup) {x : Nat × String}
    (h : x ∈ cols) : (a.insertColumns cols f).get? x.2 = some (f x.1) := by
  induction cols generalizing a with
  | nil => cases h
  | cons y cols ih =>
    rw [List.map_cons, List.nodup_cons] at nodup
    show ((a.insert y.2 (f y.1)).insertColumns cols f).get? x.2 = _
    rcases List.mem_cons.1 h with rfl | h
    · rw [get?_insertColumns_of_not_mem nodup.1, get?_insert_self]
    · exact ih nodup.2 h

/-- Fields that are lists of one length keep an answer one of such lists. -/
theorem Lists.insertColumns {n : Nat} (h : a.Lists n)
    (lists : ∀ i, ∃ ds, f i = .list ds ∧ ds.length = n) : (a.insertColumns cols f).Lists n := by
  unfold Answer.insertColumns
  induction cols generalizing a with
  | nil => exact h
  | cons x cols ih =>
    obtain ⟨ds, value, length⟩ := lists x.1
    rw [List.foldl_cons, value]
    exact ih (h.insert x.2 length)

end Answer

namespace RowSet

variable {t : RowSet} {name other : String} {taken : List Nat}

/-! ## Positions

The position of a name is where it stands first. -/

/-- A column is found at its position. -/
theorem column_eq (h : name ∈ t.columns) : t.column name = .ok (t.columns.idxOf name) := by
  have first : t.columns.idxOf? name = some (t.columns.idxOf name) :=
    List.findIdx?_eq_some_iff_findIdx_eq.2 ⟨List.idxOf_lt_length_of_mem h, rfl⟩
  rw [column, first]

/-- A column that is missing is reported by its name. -/
theorem column_eq_error (h : name ∉ t.columns) :
    t.column name = .error (.shape (.missingColumn name)) := by
  rw [column, List.idxOf?_eq_none_iff.2 h]

/-- Different names stand at different positions. -/
theorem idxOf_ne (h : name ∈ t.columns) (ne : name ≠ other) :
    t.columns.idxOf name ≠ t.columns.idxOf other := by
  intro same
  have place := List.getElem?_idxOf h
  obtain ⟨lt, first⟩ := List.getElem?_eq_some_iff.1 (same ▸ place)
  exact ne (first.symm.trans (List.getElem_idxOf lt))

/-- A name stands at one position. -/
theorem idxOf_eq (nodup : t.columns.Nodup) {i : Nat} (h : t.columns[i]? = some name) :
    t.columns.idxOf name = i := by
  obtain ⟨lt, rfl⟩ := List.getElem?_eq_some_iff.1 h
  exact nodup.idxOf_getElem i lt

/-- The columns of values are those at positions that are not taken. -/
theorem mem_valueColumns_iff {i : Nat} :
    (i, name) ∈ t.valueColumns taken ↔ t.columns[i]? = some name ∧ i ∉ taken := by
  have entry : ∀ x : String × Nat, (x ∈ t.columns.zipIdx ∧ (!taken.contains x.2) = true ∧
      (x.2, x.1) = (i, name)) ↔ (t.columns[i]? = some name ∧ i ∉ taken) ∧ x = (name, i) := by
    rintro ⟨n, j⟩
    rw [Prod.mk.injEq, Prod.mk.injEq, List.mk_mem_zipIdx_iff_getElem?, Bool.not_eq_true',
      ← Bool.not_eq_true, List.contains_iff_mem]
    constructor
    · rintro ⟨place, free, rfl, rfl⟩
      exact ⟨⟨place, free⟩, rfl, rfl⟩
    · rintro ⟨⟨place, free⟩, rfl, rfl⟩
      exact ⟨place, free, rfl, rfl⟩
  have listed : (i, name) ∈ t.valueColumns taken ↔ ∃ x : String × Nat,
      x ∈ t.columns.zipIdx ∧ (!taken.contains x.2) = true ∧ (x.2, x.1) = (i, name) := by
    unfold valueColumns
    simp only [List.mem_map, List.mem_filter, and_assoc]
  rw [listed]
  simp only [entry]
  exact ⟨fun ⟨_, h, _⟩ => h, fun h => ⟨_, h, rfl⟩⟩

/-- They have different names, as all columns have. -/
theorem nodup_valueColumns (nodup : t.columns.Nodup) (taken : List Nat) :
    ((t.valueColumns taken).map Prod.snd).Nodup := by
  have names : (t.valueColumns taken).map Prod.snd
      = (t.columns.zipIdx.filter fun x => !taken.contains x.2).map Prod.fst := by
    rw [valueColumns, List.map_map]
    rfl
  have some_of : ((t.valueColumns taken).map Prod.snd).Sublist t.columns := by
    rw [names]
    conv => rhs; rw [← List.zipIdx_map_fst 0 t.columns]
    exact List.filter_sublist.map _
  exact nodup.sublist some_of

/-- **A column has a field under its name**, unless it is taken. -/
theorem get?_insertColumns (nodup : t.columns.Nodup) (h : name ∈ t.columns)
    (free : t.columns.idxOf name ∉ taken) (f : Nat → FieldValue) (a : Answer) :
    (a.insertColumns (t.valueColumns taken) f).get? name = some (f (t.columns.idxOf name)) :=
  Answer.get?_insertColumns_of_mem (nodup_valueColumns nodup taken)
    (mem_valueColumns_iff.2 ⟨List.getElem?_idxOf h, free⟩)

/-- Another field stays as it is: one that no column has, and one whose position is taken. -/
theorem get?_insertColumns_of_taken (nodup : t.columns.Nodup)
    (h : name ∉ t.columns ∨ t.columns.idxOf name ∈ taken) (f : Nat → FieldValue) (a : Answer) :
    (a.insertColumns (t.valueColumns taken) f).get? name = a.get? name := by
  refine Answer.get?_insertColumns_of_not_mem fun there => ?_
  obtain ⟨⟨i, n⟩, listed, rfl⟩ := List.mem_map.1 there
  obtain ⟨place, free⟩ := mem_valueColumns_iff.1 listed
  rcases h with absent | used
  · exact absent (List.mem_of_getElem? place)
  · exact free (idxOf_eq nodup place ▸ used)

/-! ## A column left out

Positions behind the column that is left out move by one, and so do the cells. -/

/-- Where the names after a column that is left out stand. -/
theorem idxOf_eraseIdx {columns : List String} (nodup : columns.Nodup) (h : name ∈ columns)
    {k : Nat} (ne : columns.idxOf name ≠ k) :
    (columns.eraseIdx k).idxOf name
      = if columns.idxOf name < k then columns.idxOf name else columns.idxOf name - 1 := by
  have place := List.getElem?_idxOf h
  refine idxOf_eq (t := ⟨columns.eraseIdx k, []⟩) (nodup.eraseIdx k) ?_
  show (columns.eraseIdx k)[_]? = _
  rw [List.getElem?_eraseIdx]
  split_ifs with before
  · exact place
  · omega
  · rw [show columns.idxOf name - 1 + 1 = columns.idxOf name by omega]
    exact place

/-- **The cells of the other columns stay**, in rows of any width. A cell behind the end of a row is
absent before and after. -/
theorem cell_eraseIdx {columns : List String} (nodup : columns.Nodup) (h : name ∈ columns)
    {k : Nat} (ne : columns.idxOf name ≠ k) (row : List Datum) :
    cell (row.eraseIdx k) ((columns.eraseIdx k).idxOf name) = cell row (columns.idxOf name) := by
  rw [idxOf_eraseIdx nodup h ne, cell, cell, List.getD_eq_getElem?_getD,
    List.getD_eq_getElem?_getD, List.getElem?_eraseIdx]
  split_ifs with before
  · rfl
  · omega
  · rw [show columns.idxOf name - 1 + 1 = columns.idxOf name by omega]

end RowSet

end ActivityMetrics
