import ActivityMetrics.Window

/-!
# Filters

A filter says which activity an answer is about: a window of days, the dimensions that are bound to
a value or broken down by item, the people and organizations left out, and which change closes an
issue. It also carries the period of a series and the limit of a ranking.

A selection either binds dimensions to values or asks for every item of a single dimension; there is
no mixture. A window never is empty.
-/

namespace ActivityMetrics

open Calendar

/-- What the activity is restricted to, or broken down by. -/
inductive Selection where
  /-- Every pair of a dimension and a value has to match. -/
  | bound (pairs : List (Dimension × String))
  /-- One answer for every item of the dimension. -/
  | every (dimension : Dimension)
deriving DecidableEq

namespace Selection

/-- The dimensions with their values, in the order in which they were given. A dimension that is
broken down has no value. -/
def entries : Selection → List (Dimension × Option String)
  | .bound pairs => pairs.map fun (d, v) => (d, some v)
  | .every d => [(d, none)]

/-- The dimension that is broken down. -/
def group? : Selection → Option Dimension
  | .bound _ => none
  | .every d => some d

/-- The pairs that have to match. -/
def pairs : Selection → List (Dimension × String)
  | .bound ps => ps
  | .every _ => []

end Selection

/-- The change that closes an issue: a field takes one of some values. -/
structure ClosingCondition where
  /-- The field that changes. -/
  field : String
  /-- The values that close the issue. -/
  values : List String
deriving DecidableEq

/-- An issue is closed by becoming resolved or closed. -/
def ClosingCondition.standard : ClosingCondition :=
  ⟨"status", ["RESOLVED", "CLOSED"]⟩

/-- What an answer is about. -/
structure Filter where
  /-- How finely a series is cut. -/
  period : Period
  /-- The first day of the window. -/
  start : Date
  /-- The day after the last one of the window. -/
  stop : Date
  /-- The window holds a day. -/
  start_lt_stop : start < stop
  /-- What the activity is restricted to, or broken down by. -/
  selection : Selection
  /-- The greatest number of items. -/
  limit : Option Nat
  /-- The people whose activity is left out. -/
  excludedActors : List String
  /-- The organizations whose members' activity is left out. -/
  excludedOrganizations : List String
  /-- One more pair of a dimension and a value that has to match. -/
  global : Option (Dimension × String)
  /-- The change that closes an issue, unless it is the standard one. -/
  closing : Option ClosingCondition

namespace Filter

/-- The number of days of the window. -/
def windowDays (f : Filter) : Int :=
  f.stop.day - f.start.day

/-- The dimension that is broken down. -/
def group? (f : Filter) : Option Dimension :=
  f.selection.group?

/-- One answer is asked for every item of a dimension. -/
def isGrouping (f : Filter) : Bool :=
  f.group?.isSome

/-- All pairs that have to match, the global one last. -/
def bindings (f : Filter) : List (Dimension × String) :=
  f.selection.pairs ++ f.global.toList

/-- The same filter over another window, which must not be empty. -/
def withWindow (f : Filter) (start stop : Date) : Outcome Filter :=
  if h : start < stop then .ok { f with start, stop, start_lt_stop := h }
  else .error (.filter (.emptyWindow start stop))

/-- The change that closes an issue. -/
def closingCondition (f : Filter) : ClosingCondition :=
  f.closing.getD .standard

end Filter

end ActivityMetrics
