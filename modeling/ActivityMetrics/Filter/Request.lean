import ActivityMetrics.Filter.Assignment

/-!
# Requests for filters

A filter is asked for step by step, in any order, and a later step takes back an earlier one of its
kind. Nothing is checked before the request is complete, with one exception: arguments are read when
they are given. `FilterRequest.build` then checks the window, the period, the selection, the global
binding and the closing condition, in this order, and reports the first fault.
-/

namespace ActivityMetrics

open Calendar

/-- A period as it is asked for. -/
inductive PeriodChoice where
  /-- A period. -/
  | fixed (p : Period)
  /-- The name of a period. -/
  | named (name : String)

/-- A selection as it is asked for. -/
inductive SelectionChoice where
  /-- Names separated by commas, and their values. -/
  | values (names : String) (values : List String)
  /-- The name of a dimension that is to be broken down. -/
  | every (name : String)

/-- What has been asked for so far. -/
structure FilterRequest where
  /-- The first day of the window. -/
  start : Date
  /-- The day after the last one of the window. -/
  stop : Date
  /-- The period. -/
  period : PeriodChoice := .fixed .month
  /-- The selection. -/
  selection : Option SelectionChoice := none
  /-- The limit. -/
  limit : Option Nat := none
  /-- The people to leave out. -/
  excludedActors : List String := []
  /-- The organizations to leave out. -/
  excludedOrganizations : List String := []
  /-- The name of a dimension and a value. -/
  global : Option (String × String) := none
  /-- The change that closes an issue. -/
  closing : Option ClosingCondition := none

/-- A step of a request. -/
inductive FilterStep where
  /-- Take a period. -/
  | period (p : Period)
  /-- Take the period of a name. -/
  | periodName (name : String)
  /-- Bind the dimensions of comma-separated names to values. -/
  | dimension (names : String) (values : List String)
  /-- Break down by the dimension of a name. -/
  | groupBy (name : String)
  /-- Take the selection of arguments. -/
  | assignments (args : List String)
  /-- Take at most so many items. -/
  | limit (n : Nat)
  /-- Leave out a person. -/
  | excludeActor (uuid : String)
  /-- Leave out the members of an organization. -/
  | excludeOrganization (name : String)
  /-- Bind one more dimension. -/
  | global (name value : String)
  /-- Take another closing condition. -/
  | closing (condition : ClosingCondition)

namespace FilterRequest

/-- The selection of arguments that have been read: none, a single `*`, or values alone. -/
def selectionOf : List (Dimension × Option String) → Outcome (Option SelectionChoice)
  | [] => .ok none
  | [(d, none)] => .ok (some (.every d.name))
  | parsed =>
    if parsed.any fun (_, v) => v.isNone then .error (.filter .groupingNotAlone)
    else
      .ok (some (.values (String.intercalate "," (parsed.map fun (d, _) => d.name))
        (parsed.filterMap Prod.snd)))

/-- Takes the selection of arguments. No argument leaves the request as it is. -/
def assign (r : FilterRequest) (args : List String) : Outcome FilterRequest := do
  match ← selectionOf (← Assignment.readAll args) with
  | none => return r
  | some choice => return { r with selection := some choice }

/-- Takes a step. -/
def step (r : FilterRequest) : FilterStep → Outcome FilterRequest
  | .period p => .ok { r with period := .fixed p }
  | .periodName name => .ok { r with period := .named name }
  | .dimension names values => .ok { r with selection := some (.values names values) }
  | .groupBy name => .ok { r with selection := some (.every name) }
  | .assignments args => r.assign args
  | .limit n => .ok { r with limit := some n }
  | .excludeActor uuid => .ok { r with excludedActors := r.excludedActors ++ [uuid] }
  | .excludeOrganization name =>
    .ok { r with excludedOrganizations := r.excludedOrganizations ++ [name] }
  | .global name value => .ok { r with global := some (name, value) }
  | .closing condition => .ok { r with closing := some condition }

/-- Takes steps from left to right, up to the first that fails. -/
def steps (r : FilterRequest) (ss : List FilterStep) : Outcome FilterRequest :=
  ss.foldlM step r

/-! ## Completion -/

/-- The period that was asked for. -/
def PeriodChoice.resolve : PeriodChoice → Outcome Period
  | .fixed p => .ok p
  | .named name => Period.ofName name

/-- The dimensions of comma-separated names. -/
def dimensions (names : String) : Outcome (List Dimension) :=
  (Text.splitCommas names).mapM Dimension.ofName

/-- The selection that was asked for. Names are read before they are counted. -/
def SelectionChoice.resolve : SelectionChoice → Outcome Selection
  | .every names => do
    match ← dimensions names with
    | [d] => return .every d
    | _ => throw (.filter (.groupingArity names))
  | .values names values => do
    let ds ← dimensions names
    if values.length = ds.length then return .bound (ds.zip values)
    else throw (.filter (.arity ds.length names values.length))

/-- The selection of a request, which restricts nothing unless asked for. -/
def resolveSelection : Option SelectionChoice → Outcome Selection
  | none => .ok (.bound [])
  | some choice => SelectionChoice.resolve choice

/-- The global binding of a request. -/
def resolveGlobal : Option (String × String) → Outcome (Option (Dimension × String))
  | none => .ok none
  | some (name, value) => do return some (← Dimension.ofName name, value)

/-- The closing condition of a request, which must have a value. -/
def checkClosing : Option ClosingCondition → Outcome Unit
  | some ⟨_, []⟩ => .error (.filter .noClosingValue)
  | _ => .ok ()

/-- The filter that was asked for. -/
def build (r : FilterRequest) : Outcome Filter :=
  if h : r.start < r.stop then do
    let period ← PeriodChoice.resolve r.period
    let selection ← resolveSelection r.selection
    let global ← resolveGlobal r.global
    checkClosing r.closing
    return {
      period, start := r.start, stop := r.stop, start_lt_stop := h, selection
      limit := r.limit, excludedActors := r.excludedActors
      excludedOrganizations := r.excludedOrganizations, global, closing := r.closing }
  else .error (.filter (.emptyWindow r.start r.stop))

end FilterRequest

end ActivityMetrics
