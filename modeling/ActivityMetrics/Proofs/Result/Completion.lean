import ActivityMetrics.Proofs.Period.Axis
import ActivityMetrics.Proofs.Result.ByItem

/-!
# Completion of rows over a window

Completing a series fills the buckets of a window with the values of rows and leaves zero where
there is no row. It succeeds exactly for rows that fit: they are as wide as the columns, there is a
column that names their buckets, and the buckets are different ones of the window. Rows that do not
fit are refused with a fault that they really have (`RowSet.Faulty`), and rows that fit have none
(`RowSet.Faulty.not_fits`).

The answer has one entry for every bucket in every field, and the value of every row in the place of
its bucket. It does not depend on the order of the rows (`RowSet.completed_exactly`).

There are three ways for a completion to go wrong without failing. It could lose a row whose bucket
is not in the window, it could put two rows into one place and keep one of them, and it could put a
value beside a bucket that is not its own. The first two are excluded by being refused, and so it
has to be shown that they are, and that nothing else is. The third is excluded by `EntryOf`, which
says of every entry which row it comes from, and of every zero that there is none.

A fault is described by the rows and not by the way in which it is found. Of rows with several
faults any may be reported, and which it is depends on their order. That they are refused does not.
-/

namespace ActivityMetrics

open Calendar

namespace RowSet

variable {t : RowSet} {p : Period} {start stop : Date} {axis : List Period.Bucket} {a : Answer}
variable {name : String}

/-! ## Rows that fit

The conditions are those that one would write down without knowing how rows are placed. -/

/-- The rows are about different buckets of an axis. Not every bucket needs a row. This is all that
completion asks for; in particular the rows may be in any order, and their values may be
anything. -/
structure Fits (t : RowSet) (axis : List Period.Bucket) : Prop where
  /-- Every row has as many values as there are columns. -/
  widths : ∀ row ∈ t.rows, row.length = t.columns.length
  /-- There is a column of buckets. -/
  bucket_mem : bucketField ∈ t.columns
  /-- Every row is about a bucket of the axis. -/
  inside : ∀ d ∈ t.values bucketField, ∃ b ∈ axis, d = .int b.id
  /-- No two rows are about the same one. -/
  apart : (t.values bucketField).Nodup

/-- What is wrong with the buckets that rows name. The texts of the faults are part of it: the name
that is no integer, and the number of the bucket. -/
inductive Misplaced (axis : List Period.Bucket) (names : List Datum) : ShapeFault → Prop
  /-- A name is no integer. -/
  | unnamed {d : Datum} (there : d ∈ names) (other : ∀ id, d ≠ .int id) :
      Misplaced axis names (.bucketName d.display)
  /-- A bucket is not on the axis. -/
  | outside {id : Int} (there : .int id ∈ names) (absent : ∀ b ∈ axis, b.id ≠ id) :
      Misplaced axis names (.bucketOutside id)
  /-- A bucket is named twice. -/
  | repeated {id : Int} (twice : [Datum.int id, Datum.int id].Sublist names) :
      Misplaced axis names (.bucketRepeated id)

/-- What is wrong with rows that do not fit. Rows may have several faults, of which one is reported;
which one is not fixed here, as it depends on the order of the rows and of the checks. -/
inductive Faulty (t : RowSet) (axis : List Period.Bucket) : ShapeFault → Prop
  /-- A row has more or fewer values than there are columns. -/
  | width {i : Nat} {row : List Datum} (there : t.rows[i]? = some row)
      (wrong : row.length ≠ t.columns.length) :
      Faulty t axis (.width i row.length t.columns.length)
  /-- There is no column of buckets. -/
  | column (absent : bucketField ∉ t.columns) : Faulty t axis (.missingColumn bucketField)
  /-- A row has no place. -/
  | misplaced {fault : ShapeFault} (wrong : Misplaced axis (t.values bucketField) fault) :
      Faulty t axis fault

/-- Rows with a fault do not fit. So a fault is never reported of rows that could have been
completed. -/
theorem Faulty.not_fits {fault : ShapeFault} (h : t.Faulty axis fault) : ¬ t.Fits axis := by
  intro fits
  cases h with
  | width there wrong => exact wrong (fits.widths _ (List.mem_of_getElem? there))
  | column absent => exact absent fits.bucket_mem
  | misplaced wrong =>
    cases wrong with
    | unnamed there other =>
      obtain ⟨b, _, named⟩ := fits.inside _ there
      exact other b.id named
    | outside there absent =>
      obtain ⟨b, hb, named⟩ := fits.inside _ there
      exact absent b hb (Datum.int.inj named).symm
    | repeated twice => exact List.nodup_iff_sublist.1 fits.apart _ twice

/-! ## Faults that are reported

Each check that refuses rows is followed to the fault that it reports. -/

/-- The check of widths reports the first row with the wrong one. -/
theorem exists_width_of_checkWidths {e : Failure} (h : t.checkWidths = .error e) :
    ∃ fault, e = .shape fault ∧ t.Faulty axis fault := by
  unfold checkWidths at h
  split at h
  · rename_i row i found
    obtain rfl := Except.error.inj h
    have there := List.mk_mem_zipIdx_iff_getElem?.1 (List.mem_of_find?_eq_some found)
    have wrong : (row.length != t.columns.length) = true := (List.find?_some found :)
    exact ⟨_, rfl, .width there (bne_iff_ne.1 wrong)⟩
  · cases h

/-- A row without a bucket names none, or one that is not on the axis. -/
theorem exists_fault_of_bucketOf {i : Nat} {row : List Datum} {names : List Datum} {e : Failure}
    (there : cell row i ∈ names) (h : bucketOf axis i row = .error e) :
    ∃ fault, e = .shape fault ∧ Misplaced axis names fault := by
  unfold bucketOf at h
  split at h
  · rename_i unnamed
    obtain rfl := Except.error.inj h
    refine ⟨_, rfl, .unnamed there fun id named => ?_⟩
    rw [named] at unnamed
    cases unnamed
  · rename_i id named
    rw [integer?_eq_some_iff] at named
    split at h
    · cases h
    · rename_i absent
      obtain rfl := Except.error.inj h
      refine ⟨_, rfl, .outside (named ▸ there) fun b hb same => absent ?_⟩
      exact List.any_eq_true.2 ⟨b, hb, beq_iff_eq.2 same⟩

/-- **A row that is refused has no place**, after some others that have theirs. -/
theorem exists_fault_of_place {i : Nat} (done : List (List Datum)) {rows : List (List Datum)}
    {e : Failure}
    (named : ∀ row ∈ done, cell row i = .int (numberIn i row))
    (h : place axis i (done.map fun row => (numberIn i row, row)) rows = .error e) :
    ∃ fault, e = .shape fault ∧ Misplaced axis ((done ++ rows).map (cell · i)) fault := by
  induction rows generalizing done with
  | nil => cases h
  | cons row rows ih =>
    -- the faults are those of all rows, so that the rows that have their places are kept in view
    have there : cell row i ∈ (done ++ row :: rows).map (cell · i) :=
      List.mem_map.2 ⟨row, List.mem_append_right _ List.mem_cons_self, rfl⟩
    rw [place] at h
    rcases bind_eq_error_iff.1 h with unplaced | ⟨id, bucket, h⟩
    · exact exists_fault_of_bucketOf there unplaced
    · obtain ⟨own, _⟩ := bucketOf_eq_ok_iff.1 bucket
      have number := numberIn_eq own
      cases taken : (done.map fun row => (numberIn i row, row)).lookup id with
      | some first =>
        rw [taken] at h
        obtain rfl := Except.error.inj h
        -- an earlier row has the place
        obtain ⟨before, after, split, _⟩ := List.lookup_eq_some_iff.1 taken
        have entry : (id, first) ∈ done.map fun row => (numberIn i row, row) := by
          rw [split]
          exact List.mem_append_right _ List.mem_cons_self
        obtain ⟨earlier, hd, same⟩ := List.mem_map.1 entry
        have other : Datum.int id ∈ done.map (cell · i) :=
          List.mem_map.2 ⟨earlier, hd, by rw [named earlier hd, (Prod.mk.inj same).1]⟩
        refine ⟨_, rfl, .repeated ?_⟩
        rw [List.map_append, List.map_cons, own]
        exact (List.singleton_sublist.2 other).append (List.singleton_sublist.2 List.mem_cons_self)
      | none =>
        rw [taken] at h
        have rest := ih (done ++ [row]) ?_ ?_
        · rwa [List.append_assoc] at rest
        · rw [List.forall_mem_append, List.forall_mem_singleton, number]
          exact ⟨named, own⟩
        · rw [List.map_append, List.map_singleton, number]
          exact h

/-! ## Rows that fit are completed

If all rows have their places, the answer is read off the places, column by column. -/

/-- The answer that rows are completed to if they have their places. It is defined for all rows, so
that what is said about it can be separated from the question whether there is an answer. -/
def completion (t : RowSet) (p : Period) (axis : List Period.Bucket) : Answer :=
  (insertAxis p axis .empty).insertColumns (t.valueColumns [t.columns.idxOf bucketField])
    fun i => .list (seriesOf axis
      (t.rows.map fun row => (numberIn (t.columns.idxOf bucketField) row, row)) i)

/-- To say something of the values of a column is to say it of the cells. -/
theorem forall_mem_values {P : Datum → Prop} :
    (∀ d ∈ t.values name, P d) ↔ ∀ row ∈ t.rows, P (cell row (t.columns.idxOf name)) :=
  List.forall_mem_map

/-- Inside an axis, buckets are told apart by their numbers. -/
theorem values_eq_map_int (inside : ∀ d ∈ t.values name, ∃ b ∈ axis, d = .int b.id) :
    t.values name = (t.rows.map (numberIn (t.columns.idxOf name))).map .int := by
  rw [List.map_map]
  refine List.map_congr_left fun row hr => ?_
  obtain ⟨b, _, named⟩ := inside _ (mem_values hr name)
  rw [Function.comp_apply, numberIn_eq named, named]

/-- **Rows are completed when they fit**, to the answer that their places give. -/
theorem completed_eq_ok_iff_fits (defined : p.buckets start stop = .ok axis) :
    t.completed p start stop = .ok a ↔ t.Fits axis ∧ t.completion p axis = a := by
  by_cases bucket : bucketField ∈ t.columns
  · rw [completed_eq_ok_iff bucket defined]
    simp only [place_eq_ok_iff, List.lookup_nil, implies_true, true_and, List.nil_append]
    have fits : t.Fits axis ↔ (∀ row ∈ t.rows, row.length = t.columns.length) ∧
        (∀ row ∈ t.rows, ∃ b ∈ axis, cell row (t.columns.idxOf bucketField) = .int b.id) ∧
        (t.rows.map (numberIn (t.columns.idxOf bucketField))).Nodup := by
      rw [← forall_mem_values (P := fun d => ∃ b ∈ axis, d = .int b.id)]
      constructor
      · rintro ⟨widths, _, inside, apart⟩
        rw [values_eq_map_int inside] at apart
        exact ⟨widths, inside, apart.of_map⟩
      · rintro ⟨widths, inside, apart⟩
        refine ⟨widths, bucket, inside, ?_⟩
        rw [values_eq_map_int inside]
        exact apart.map fun _ _ => Datum.int.inj
    rw [fits]
    constructor
    · rintro ⟨widths, _, ⟨inside, apart, rfl⟩, rfl⟩
      exact ⟨⟨widths, inside, apart⟩, rfl⟩
    · rintro ⟨⟨widths, inside, apart⟩, rfl⟩
      exact ⟨widths, _, ⟨inside, apart, rfl⟩, rfl⟩
  · refine ⟨fun succeeds => ?_, fun h => absurd h.1.bucket_mem bucket⟩
    rw [completed, column_eq_error bucket] at succeeds
    obtain ⟨_, _, fails⟩ := exists_of_bind_eq_ok succeeds
    cases fails

/-- **Rows that do not fit are refused**, for a fault that they have. -/
theorem exists_fault_of_not_fits (defined : p.buckets start stop = .ok axis)
    (h : ¬ t.Fits axis) :
    ∃ fault, t.completed p start stop = .error (.shape fault) ∧ t.Faulty axis fault := by
  cases result : t.completed p start stop with
  | ok a => exact absurd ((completed_eq_ok_iff_fits defined).1 result).1 h
  | error e =>
    suffices ∃ fault, e = .shape fault ∧ t.Faulty axis fault by
      obtain ⟨fault, rfl, faulty⟩ := this
      exact ⟨fault, rfl, faulty⟩
    unfold completed at result
    rcases bind_eq_error_iff.1 result with widths | ⟨_, _, result⟩
    · exact exists_width_of_checkWidths widths
    by_cases bucket : bucketField ∈ t.columns
    · rw [column_eq bucket, defined] at result
      replace result : (place axis _ [] t.rows >>= _) = .error e := result
      rcases bind_eq_error_iff.1 result with unplaced | ⟨_, _, done⟩
      · obtain ⟨fault, rfl, wrong⟩ := exists_fault_of_place [] nofun unplaced
        exact ⟨fault, rfl, .misplaced wrong⟩
      · cases done
    · rw [column_eq_error bucket] at result
      obtain rfl := Except.error.inj result
      exact ⟨_, rfl, .column bucket⟩

/-! ## Entries

What is in an answer is said entry by entry. -/

/-- What a column has in the place of a bucket: the value of its row, or zero when it has none. An
absent value in a row that is there is zero, too. -/
inductive EntryOf (t : RowSet) (column : Nat) (b : Period.Bucket) : Datum → Prop
  /-- The value of the row of the bucket, where an absent one is zero. -/
  | row {row : List Datum} (there : row ∈ t.rows)
      (own : cell row (t.columns.idxOf bucketField) = .int b.id) :
      EntryOf t column b (cell row column).zeroIfNull
  /-- Zero if no row is about the bucket. -/
  | none (absent : .int b.id ∉ t.values bucketField) : EntryOf t column b (.int 0)

/-- **The rows determine every entry**, since no two of them are about the same bucket. -/
theorem EntryOf.unique (apart : (t.values bucketField).Nodup) {i : Nat} {b : Period.Bucket}
    {d d' : Datum} (h : t.EntryOf i b d) (h' : t.EntryOf i b d') : d = d' := by
  cases h with
  | row there own =>
    cases h' with
    | row there' own' => rw [List.inj_on_of_nodup_map apart there there' (own.trans own'.symm)]
    | none absent => exact (absent (own ▸ mem_values there bucketField)).elim
  | none absent =>
    cases h' with
    | row there own => exact (absent (own ▸ mem_values there bucketField)).elim
    | none => rfl

/-- The order of the rows does not matter for the entries. -/
theorem EntryOf.perm {u : RowSet} (columns : u.columns = t.columns) (perm : u.rows.Perm t.rows)
    {i : Nat} {b : Period.Bucket} {d : Datum} (h : t.EntryOf i b d) : u.EntryOf i b d := by
  cases h with
  | row there own => exact .row (perm.mem_iff.2 there) (by rw [columns, own])
  | none absent =>
    refine .none fun there => absent ?_
    rw [values, columns] at there
    exact (perm.map _).mem_iff.1 there

/-- **A series lists the entries of the buckets.** -/
theorem Fits.forall₂_entryOf (fits : t.Fits axis) (i : Nat) :
    List.Forall₂ (t.EntryOf i) axis (seriesOf axis
      (t.rows.map fun row => (numberIn (t.columns.idxOf bucketField) row, row)) i) := by
  have numbers := values_eq_map_int fits.inside
  have apart : (t.rows.map (numberIn (t.columns.idxOf bucketField))).Nodup := by
    have apart := fits.apart
    rw [numbers] at apart
    exact apart.of_map
  rw [seriesOf, List.forall₂_map_right_iff, List.forall₂_same]
  intro b _
  by_cases there : .int b.id ∈ t.values bucketField
  · obtain ⟨row, hr, own⟩ := List.mem_map.1 there
    have found := lookup_map_of_mem (numberIn (t.columns.idxOf bucketField)) id apart hr
    rw [numberIn_eq own] at found
    simp only [id_eq] at found
    rw [found]
    exact .row hr own
  · have absent : b.id ∉ t.rows.map (numberIn (t.columns.idxOf bucketField)) := fun listed =>
      there (numbers ▸ List.mem_map_of_mem listed)
    have missing := lookup_map_of_not_mem (numberIn (t.columns.idxOf bucketField)) id absent
    simp only [id_eq] at missing
    rw [missing]
    exact .none there

/-! ## What a completion says

The answer as a whole: which fields it has, what describes the buckets, and what the columns
hold. -/

/-- An answer has one entry for every bucket, and says of each what the rows do. That it has no
other fields is part of it, and so is that each bucket is listed once and in order. -/
structure Completes (t : RowSet) (p : Period) (axis : List Period.Bucket) (a : Answer) : Prop where
  /-- Every field has one entry for every bucket. -/
  lists : a.Lists axis.length
  /-- The fields are those that describe the buckets and those of the columns. -/
  names : ∀ name, (a.get? name).isSome ↔ name ∈ axisFields ∨ name ∈ t.columns
  /-- The buckets have different identifiers. -/
  apart : (axis.map (·.id)).Nodup
  /-- The buckets are listed in order. -/
  ids : a.list? bucketField = some (axis.map fun b => .int b.id)
  /-- The labels are those of the buckets. -/
  labels : a.list? labelField = some (axis.map fun b => .text (p.label b.start))
  /-- The seconds are those at which the buckets begin. -/
  seconds : a.list? secondsField = some (axis.map fun b => .int b.start.unixMidnight)
  /-- In every other column, each bucket has its entry. -/
  entries : ∀ name ∈ t.columns, name ≠ bucketField → ∃ ds,
    a.list? name = some ds ∧ List.Forall₂ (t.EntryOf (t.columns.idxOf name)) axis ds

section

variable (nodup : t.columns.Nodup) (label : labelField ∉ t.columns)
  (seconds : secondsField ∉ t.columns)
include nodup label seconds

/-- The fields that describe the buckets are not overwritten by columns. -/
theorem get?_completion_of_mem_axisFields (h : name ∈ axisFields) :
    (t.completion p axis).get? name = (insertAxis p axis .empty).get? name := by
  refine get?_insertColumns_of_taken nodup ?_ _ _
  simp only [axisFields, List.mem_cons, List.not_mem_nil, or_false] at h
  rcases h with rfl | rfl | rfl
  · exact .inr (List.mem_singleton.2 rfl)
  · exact .inl label
  · exact .inl seconds

omit label seconds in
/-- The columns are in fields of their own. -/
theorem get?_completion_of_mem_columns (h : name ∈ t.columns) (ne : name ≠ bucketField) :
    (t.completion p axis).get? name = some (.list (seriesOf axis
      (t.rows.map fun row => (numberIn (t.columns.idxOf bucketField) row, row))
      (t.columns.idxOf name))) :=
  get?_insertColumns nodup h (fun taken => idxOf_ne h ne (List.mem_singleton.1 taken)) _ _

/-- The places of rows that fit give an answer that completes them. -/
theorem Fits.completes (fits : t.Fits axis) (apart : (axis.map (·.id)).Nodup) :
    t.Completes p axis (t.completion p axis) where
  lists := (lists_insertAxis p axis (Answer.lists_empty _)).insertColumns fun i =>
    ⟨_, rfl, List.length_map _⟩
  names name := by
    -- a name is one of the axis, one of a column, or none of the answer
    by_cases shown : name ∈ axisFields
    · rw [get?_completion_of_mem_axisFields nodup label seconds shown, iff_true_right (.inl shown)]
      simp only [axisFields, List.mem_cons, List.not_mem_nil, or_false] at shown
      rcases shown with rfl | rfl | rfl
      · rw [get?_insertAxis_bucketField, Option.isSome_some]
      · rw [get?_insertAxis_labelField, Option.isSome_some]
      · rw [get?_insertAxis_secondsField, Option.isSome_some]
    · by_cases there : name ∈ t.columns
      · have other : name ≠ bucketField := fun same => shown (same ▸ List.mem_cons_self)
        rw [get?_completion_of_mem_columns nodup there other, Option.isSome_some]
        exact ⟨fun _ => .inr there, fun _ => rfl⟩
      · rw [completion, get?_insertColumns_of_taken nodup (.inl there),
          get?_insertAxis_of_not_mem shown]
        exact ⟨fun some => absurd some Bool.false_ne_true, fun h => (h.elim shown there).elim⟩
  apart := apart
  ids := by
    refine Answer.list?_of_get? ?_
    rw [get?_completion_of_mem_axisFields nodup label seconds (by decide),
      get?_insertAxis_bucketField]
  labels := by
    refine Answer.list?_of_get? ?_
    rw [get?_completion_of_mem_axisFields nodup label seconds (by decide),
      get?_insertAxis_labelField]
  seconds := by
    refine Answer.list?_of_get? ?_
    rw [get?_completion_of_mem_axisFields nodup label seconds (by decide),
      get?_insertAxis_secondsField]
  entries name there ne :=
    ⟨_, Answer.list?_of_get? (get?_completion_of_mem_columns nodup there ne),
      fits.forall₂_entryOf _⟩

end

/-! ## The order of rows

Neither the conditions nor the entries depend on an order. -/

section

variable {u : RowSet}

/-- Rows fit in every order. -/
theorem Fits.of_perm (columns : u.columns = t.columns) (perm : u.rows.Perm t.rows)
    (fits : t.Fits axis) : u.Fits axis := by
  have values : (u.values bucketField).Perm (t.values bucketField) := by
    rw [RowSet.values, RowSet.values, columns]
    exact perm.map _
  refine ⟨fun row hr => ?_, columns ▸ fits.bucket_mem, fun d hd => ?_, ?_⟩
  · rw [columns, fits.widths row (perm.mem_iff.1 hr)]
  · exact fits.inside d (values.mem_iff.1 hd)
  · exact values.nodup_iff.2 fits.apart

/-- **Rows are completed alike in every order**, as they have the same entries. -/
theorem completion_eq_of_perm (columns : u.columns = t.columns) (perm : u.rows.Perm t.rows)
    (fits : t.Fits axis) : u.completion p axis = t.completion p axis := by
  have series : ∀ i, seriesOf axis
        (u.rows.map fun row => (numberIn (t.columns.idxOf bucketField) row, row)) i
      = seriesOf axis
        (t.rows.map fun row => (numberIn (t.columns.idxOf bucketField) row, row)) i := by
    intro i
    have here := (fits.of_perm columns perm).forall₂_entryOf i
    rw [columns] at here
    have there := (fits.forall₂_entryOf i).imp fun _ _ h => h.perm columns perm
    have apart := (fits.of_perm columns perm).apart
    exact List.right_unique_forall₂' (fun _ _ _ h h' => h.unique apart h') here there
  have positions : u.valueColumns = t.valueColumns := by
    unfold valueColumns
    rw [columns]
  simp only [completion, columns, series, positions]

end

/-- **Completion neither loses, moves nor invents a value.** It succeeds exactly when rows fit the
axis of the window, and is otherwise refused for a fault that the rows have. The answer lists the
buckets in order and has in every column the value of the row of each of them, or zero when there is
none. It is the same for the rows in every order.

The rows are any rows at all, with as many columns as one likes. Of the columns it is asked that
they have different names, and that none is called as the fields that a completion adds: these would
be overwritten by it, which no fault reports. -/
theorem completed_exactly (nodup : t.columns.Nodup) (label : labelField ∉ t.columns)
    (seconds : secondsField ∉ t.columns) (defined : p.buckets start stop = .ok axis) :
    ((∃ a, t.completed p start stop = .ok a) ↔ t.Fits axis) ∧
      (¬ t.Fits axis →
        ∃ fault, t.completed p start stop = .error (.shape fault) ∧ t.Faulty axis fault) ∧
      (∀ a, t.completed p start stop = .ok a → t.Completes p axis a) ∧
      ∀ u : RowSet, u.columns = t.columns → u.rows.Perm t.rows →
        ∀ a, u.completed p start stop = .ok a ↔ t.completed p start stop = .ok a := by
  have succeeds : ∀ {a}, t.completed p start stop = .ok a ↔
      t.Fits axis ∧ t.completion p axis = a := completed_eq_ok_iff_fits defined
  refine ⟨?_, exists_fault_of_not_fits defined, fun a h => ?_,
    fun u columns perm a => ?_⟩
  · simp only [succeeds, exists_and_left, exists_eq', and_true]
  · obtain ⟨fits, rfl⟩ := succeeds.1 h
    exact fits.completes nodup label seconds (Period.buckets_eq_ok_iff.1 defined).2.2.nodup_ids
  · rw [succeeds, completed_eq_ok_iff_fits defined]
    constructor
    · rintro ⟨fits, rfl⟩
      exact ⟨fits.of_perm columns.symm perm.symm,
        completion_eq_of_perm columns.symm perm.symm fits⟩
    · rintro ⟨fits, rfl⟩
      exact ⟨fits.of_perm columns perm, completion_eq_of_perm columns perm fits⟩

/-- Rows of March and of January 2025, with the column of buckets in the middle. -/
def sparseRows : RowSet :=
  ⟨["commits", "id", "authors"],
    [[.int 5, .int 24303, .null], [.int 3, .int 24301, .int 2]]⟩

/-- February has no row. -/
theorem completed_exactly_sparseRows :
    ∃ axis a, Period.month.buckets ⟨20089, by decide, by decide⟩ ⟨20179, by decide, by decide⟩
        = .ok axis ∧ sparseRows.Fits axis ∧
      sparseRows.completed .month ⟨20089, by decide, by decide⟩ ⟨20179, by decide, by decide⟩
        = .ok a ∧
      sparseRows.Completes .month axis a ∧
      a.list? "commits" = some [.int 3, .int 0, .int 5] ∧
      a.list? "authors" = some [.int 2, .int 0, .int 0] := by
  obtain ⟨axis, defined⟩ : ∃ axis, Period.month.buckets ⟨20089, by decide, by decide⟩
      ⟨20179, by decide, by decide⟩ = .ok axis := ⟨_, rfl⟩
  obtain ⟨fits, _, completes, _⟩ :=
    completed_exactly (t := sparseRows) (by decide) (by decide) (by decide) defined
  exact ⟨axis, _, defined, fits.1 ⟨_, rfl⟩, rfl, completes _ rfl, rfl, rfl⟩

end RowSet

end ActivityMetrics
