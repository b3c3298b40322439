import ActivityMetrics.Result.Datum

/-!
# Answers

An answer holds named fields, in the order of their names. A field is a single value, a list, or one
list for each of several items.
-/

namespace ActivityMetrics

/-- The content of a field. -/
inductive FieldValue where
  /-- A single value. -/
  | scalar (d : Datum)
  /-- A list of values. -/
  | list (ds : List Datum)
  /-- A list of values for every item. -/
  | grouped (dss : List (List Datum))

/-- The document of a field. -/
def FieldValue.document : FieldValue → Document
  | .scalar d => d.document
  | .list ds => .list (ds.map Datum.document)
  | .grouped dss => .list (dss.map fun ds => .list (ds.map Datum.document))

/-- Named fields, by ascending name. -/
structure Answer where
  /-- The fields. -/
  fields : List (String × FieldValue)

namespace Answer

/-- The answer without a field. -/
def empty : Answer := ⟨[]⟩

/-- Puts a field into a list ordered by name, in place of one with its name. -/
def insertField (name : String) (value : FieldValue) :
    List (String × FieldValue) → List (String × FieldValue)
  | [] => [(name, value)]
  | (n, v) :: rest =>
    if name < n then (name, value) :: (n, v) :: rest
    else if name = n then (name, value) :: rest
    else (n, v) :: insertField name value rest

/-- The answer with a field, in place of one with its name. -/
def insert (a : Answer) (name : String) (value : FieldValue) : Answer :=
  ⟨insertField name value a.fields⟩

/-- The field of a name. -/
def get? (a : Answer) (name : String) : Option FieldValue :=
  a.fields.lookup name

/-- The single value of a name. -/
def scalar? (a : Answer) (name : String) : Option Datum :=
  match a.get? name with
  | some (.scalar d) => some d
  | _ => none

/-- The list of a name. -/
def list? (a : Answer) (name : String) : Option (List Datum) :=
  match a.get? name with
  | some (.list ds) => some ds
  | _ => none

/-- The lists for several items of a name. -/
def grouped? (a : Answer) (name : String) : Option (List (List Datum)) :=
  match a.get? name with
  | some (.grouped dss) => some dss
  | _ => none

/-- The names of the fields. -/
def names (a : Answer) : List String :=
  a.fields.map Prod.fst

/-- The document of an answer. -/
def document (a : Answer) : Document :=
  .object (a.fields.map fun (name, value) => (name, value.document))

end Answer

end ActivityMetrics
