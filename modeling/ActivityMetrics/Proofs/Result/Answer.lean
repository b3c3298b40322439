import ActivityMetrics.Result.Answer

/-!
# Fields of an answer

A field that is put into an answer is found under its name, and the other fields stay as they are.

An answer keeps its fields in the order of their names, whatever the order in which they were put
in. So a field that is put in may stand in front of others, and one of the same name is replaced.
These two laws are all that the order of fields ever has to be known by: with them an answer is a
function from names to values.
-/

namespace ActivityMetrics.Answer

/-- The field that is put in is found, wherever its name has placed it. -/
theorem lookup_insertField_self (name : String) (value : FieldValue)
    (fields : List (String × FieldValue)) :
    (insertField name value fields).lookup name = some value := by
  induction fields with
  | nil => exact List.lookup_cons_self
  | cons field fields ih =>
    obtain ⟨n, v⟩ := field
    unfold insertField
    split
    · exact List.lookup_cons_self
    · split
      · exact List.lookup_cons_self
      · rename_i other
        rw [List.lookup_cons, beq_false_of_ne other, ih]

/-- For other names nothing changes, whether a field was put between or one was replaced. -/
theorem lookup_insertField_of_ne {name other : String} (h : other ≠ name) (value : FieldValue)
    (fields : List (String × FieldValue)) :
    (insertField name value fields).lookup other = fields.lookup other := by
  have skip : ∀ rest : List (String × FieldValue),
      ((name, value) :: rest).lookup other = rest.lookup other := fun rest => by
    rw [List.lookup_cons, beq_false_of_ne h]
  induction fields with
  | nil => exact skip []
  | cons field fields ih =>
    obtain ⟨n, v⟩ := field
    unfold insertField
    split
    · exact skip _
    · split
      · rename_i same
        rw [skip, List.lookup_cons, ← same, beq_false_of_ne h]
      · rw [List.lookup_cons, List.lookup_cons, ih]

/-- A field that was put into an answer is found. -/
@[simp]
theorem get?_insert_self (a : Answer) (name : String) (value : FieldValue) :
    (a.insert name value).get? name = some value :=
  lookup_insertField_self name value a.fields

/-- Other fields stay as they are. -/
theorem get?_insert_of_ne {name other : String} (h : other ≠ name) (a : Answer)
    (value : FieldValue) : (a.insert name value).get? other = a.get? other :=
  lookup_insertField_of_ne h value a.fields

/-- A field with a single value is read as such. -/
theorem scalar?_of_get? {a : Answer} {name : String} {d : Datum}
    (h : a.get? name = some (.scalar d)) : a.scalar? name = some d := by
  rw [scalar?, h]

/-- A field with a list is read as a list. -/
theorem list?_of_get? {a : Answer} {name : String} {ds : List Datum}
    (h : a.get? name = some (.list ds)) : a.list? name = some ds := by
  rw [list?, h]

/-- A field with a list for each item is read as these lists. -/
theorem grouped?_of_get? {a : Answer} {name : String} {dss : List (List Datum)}
    (h : a.get? name = some (.grouped dss)) : a.grouped? name = some dss := by
  rw [grouped?, h]

/-- The lists under other names stay. -/
theorem list?_insert_of_ne {name other : String} (h : other ≠ name) (a : Answer)
    (value : FieldValue) : (a.insert name value).list? other = a.list? other := by
  rw [list?, get?_insert_of_ne h, list?]

/-! ## Lists of one length

The fields of a series run side by side, so that the same position in all of them is about the same
bucket. -/

/-- Every field is a list of a length. No field is a single value, or has a list for each item. -/
def Lists (a : Answer) (n : Nat) : Prop :=
  ∀ name value, a.get? name = some value → ∃ ds, value = .list ds ∧ ds.length = n

/-- Without fields, all are lists of any length. -/
theorem lists_empty (n : Nat) : empty.Lists n :=
  fun _ _ h => nomatch h

/-- All fields are lists of the length when one such list is put in. -/
theorem Lists.insert {a : Answer} {n : Nat} (h : a.Lists n) (name : String) {ds : List Datum}
    (length : ds.length = n) : (a.insert name (.list ds)).Lists n := by
  intro other value found
  by_cases same : other = name
  · rw [same, get?_insert_self] at found
    exact ⟨ds, (Option.some.inj found).symm, length⟩
  · rw [get?_insert_of_ne same] at found
    exact h other value found

end ActivityMetrics.Answer
