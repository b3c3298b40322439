import ActivityMetrics.Failure
import ActivityMetrics.Period.Expression
import ActivityMetrics.Query.Fragments

/-!
# Statements

A statement selects values of events in a window: as a total or a ranking, or bucket by bucket. Its
text is composed of the table of the events, joins, predicates and expressions, all of them texts,
and its parameters stand in the order of their marks: the two ends of the window, the parameters of
the predicates, and the limit of a ranking.
-/

namespace ActivityMetrics

open Calendar

/-- An expression and the name of its column. -/
structure ValueField where
  /-- The name. -/
  name : String
  /-- The expression. -/
  expr : String
deriving DecidableEq

/-- What a statement is composed of. -/
structure Statement where
  /-- The source of the events. -/
  source : Source
  /-- The table of the events, with its alias. -/
  table : String
  /-- The values; a ranking is by the first. -/
  fields : List ValueField
  /-- The joins and predicates. -/
  fragments : Fragments Join Predicate
  /-- The column of the time of an event. -/
  dateColumn : String
  /-- The first day of the window. -/
  start : Date
  /-- The day after the last one of the window. -/
  stop : Date
  /-- How finely the window is cut. -/
  period : Period
  /-- The dimension that is broken down, and the expression for its items if it has one. -/
  grouping : Option (Dimension × Option String)
  /-- The greatest number of items of a ranking. -/
  limit : Option Nat

/-- What a statement selects. -/
inductive Mode where
  /-- One row for the window, or one for each item. -/
  | aggregate
  /-- One row for each bucket, or for each bucket and item. -/
  | timeSeries
deriving DecidableEq

/-- A statement as it is sent to a database. -/
structure CompiledStatement where
  /-- The text. -/
  text : String
  /-- The parameters of its marks. -/
  params : List Parameter

namespace Statement

/-- Texts with a separator between them. -/
def listed (sep : String) (texts : List String) : String :=
  String.intercalate sep texts

/-- A keyword and a list, or nothing if the list is empty. -/
def clause (keyword sep : String) : List String → String
  | [] => ""
  | texts => keyword ++ listed sep texts

/-- The name and the expression of the items, if there are any. -/
def key? (s : Statement) : Outcome (Option (String × String)) :=
  match s.grouping with
  | none => .ok none
  | some (d, some key) => .ok (some (d.name, key))
  | some (d, none) => .error (.unsupportedDimension d.name s.source.name)

/-- The bucket of an event, if the statement goes bucket by bucket. -/
def bucket? (s : Statement) : Mode → Option String
  | .aggregate => none
  | .timeSeries => some (s.period.bucketText s.dateColumn)

/-- What is selected: the bucket, the item, and the values. -/
def selected (s : Statement) (mode : Mode) (key : Option (String × String)) : List String :=
  (s.bucket? mode).toList.map (· ++ " AS id")
    ++ key.toList.map (fun (name, key) => key ++ " AS " ++ name)
    ++ s.fields.map fun f => f.expr ++ " AS " ++ f.name

/-- By what events are taken together. -/
def grouped (s : Statement) (mode : Mode) (key : Option (String × String)) : List String :=
  (s.bucket? mode).toList ++ key.toList.map Prod.snd

/-- The order of the rows: by bucket and item, or by descending value and item. -/
def ordered (s : Statement) (mode : Mode) (key : Option (String × String)) : List String :=
  (s.bucket? mode).toList.map (fun _ => "id ASC")
    ++ match key, mode with
      | none, _ => []
      | some (name, _), .timeSeries => [name ++ " ASC"]
      | some (name, _), .aggregate =>
        (s.fields.head?.toList.map fun f => f.name ++ " DESC") ++ [name ++ " ASC"]

/-- The predicates of the window, and those of the fragments in brackets. -/
def required (s : Statement) : List String :=
  [s.dateColumn ++ " >= ?", s.dateColumn ++ " < ?"]
    ++ s.fragments.predicates.map fun p => "(" ++ p.text ++ ")"

/-- The limit, if the statement is a ranking and has one. -/
def cut (s : Statement) (mode : Mode) (key : Option (String × String)) : Option Nat :=
  match mode, key with
  | .aggregate, some _ => s.limit
  | _, _ => none

/-- The text and the parameters of a statement. There has to be a value, and a dimension that is
broken down has to have an expression for its items. -/
def compile (s : Statement) (mode : Mode) : Outcome CompiledStatement :=
  if s.fields.isEmpty then .error .noValue
  else
    match s.key? with
    | .error e => .error e
    | .ok key =>
      let limit := s.cut mode key
      .ok {
        text :=
          "SELECT " ++ listed ", " (s.selected mode key) ++ " FROM " ++ s.table
            ++ String.join (s.fragments.joins.map fun j => " " ++ j.text)
            ++ clause " WHERE " " AND " s.required
            ++ clause " GROUP BY " ", " (s.grouped mode key)
            ++ clause " ORDER BY " ", " (s.ordered mode key)
            ++ (limit.elim "" fun _ => " LIMIT ?")
        params :=
          [.ofDate s.start, .ofDate s.stop]
            ++ s.fragments.predicates.flatMap (·.params)
            ++ limit.toList.map fun n => .integer n }

end Statement

end ActivityMetrics
