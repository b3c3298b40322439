import ActivityMetrics.CommandLine.Command
import ActivityMetrics.Filter.Request
import ActivityMetrics.Session

/-!
# Running commands

A command is answered from a warehouse, with text for the standard output. What it leaves open is
filled in from the settings of the warehouse, and at last from fixed defaults: a window of 90 days
up to the present one, and a trend up to the present day.

The order in which parts of a filter are read decides which failure is reported when several parts
are wrong: the window comes first, then the bindings, the period, the limit and the global binding,
and at last what the builder checks. A stored period or limit is read only where a command leaves it
open, so it can be wrong and do no harm to a command that has its own.

A command that only asks does not change the warehouse, whether it succeeds or not.
-/

namespace ActivityMetrics.CommandLine

open Calendar

/-- Why a command fails. Most failures are those of the request that it makes; two are its own. -/
inductive CommandFailure where
  /-- A request fails. -/
  | request (cause : Failure)
  /-- The default window begins before the calendar. -/
  | windowTooEarly (stop : Date)
  /-- The global binding has no value. -/
  | globalWithoutValue

/-- The words for the failure of a command. -/
def CommandFailure.message : CommandFailure → String
  | .request cause => cause.message
  | .windowTooEarly stop => "--to " ++ stop.text ++ " is out of range"
  | .globalWithoutValue => "--global needs a value, not '*'"

/-- The result of a command. -/
abbrev CommandOutcome := Except CommandFailure

/-- A request that a command makes. -/
def ask {α : Type} : Outcome α → CommandOutcome α
  | .ok a => .ok a
  | .error e => .error (.request e)

/-- The number of days of a window without a beginning. -/
def defaultWindowDays : Int := 90

/-- The window of a metric's arguments. A name stands for both ends, and the arguments for single
days are not looked at beside it. -/
def MetricArgs.dates (args : MetricArgs) (today : Date) : CommandOutcome Window :=
  match args.window with
  | some name => ask (Window.ofName name today)
  | none => do
    let stop ← match args.stop with
      | some s => ask (readDate s)
      | none => pure today
    match args.start with
    | some s => return (← ask (readDate s), stop)
    | none =>
      match stop.addDays? (-defaultWindowDays) with
      | some start => return (start, stop)
      | none => throw (.windowTooEarly stop)

/-- The global binding of a metric's arguments. -/
def MetricArgs.globalBinding (args : MetricArgs) : CommandOutcome (Option (String × String)) :=
  match args.global with
  | none => .ok none
  | some text => do
    match ← ask (Assignment.read text) with
    | (d, some value) => return some (d.name, value)
    | (_, none) => throw .globalWithoutValue

/-- The closing condition of a metric's arguments. Each part that is not given, or cannot be used,
is that of the stored condition. -/
def MetricArgs.closing (args : MetricArgs) (stored : Option ClosingCondition) :
    Option ClosingCondition :=
  if args.closingField.isSome || args.closingValues.isSome || stored.isSome then
    let base := stored.getD .standard
    let entries := args.closingValues.elim [] Text.listEntries
    some {
      field := args.closingField.getD base.field
      values := if entries.isEmpty then base.values else entries }
  else none

/-- The filter of a metric's arguments. A period and a limit that are given take the place of stored
ones, which are then not read; programs are left out beside the people who are named. -/
def MetricArgs.filter (args : MetricArgs) (w : Warehouse) (today : Date) :
    CommandOutcome Filter := do
  let (start, stop) ← args.dates today
  let request ← ask (FilterRequest.assign { start, stop } args.filters)
  let period ← match args.period with
    | some name => (some <$> ask (Period.ofName name) : CommandOutcome (Option Period))
    | none => ask (Settings.period w)
  let limit ← match args.limit with
    | some n => pure (some n)
    | none => ask (Settings.limit w)
  let global ← args.globalBinding
  ask <| FilterRequest.build { request with
    period := period.elim request.period .fixed
    limit
    global
    excludedActors := args.excludedActors ++ if args.excludeBots then w.bots else []
    excludedOrganizations := args.excludedOrganizations
    closing := args.closing (Settings.closing w) }

/-- A document as it is printed. -/
def printed (d : Document) : String :=
  d.pretty ++ "\n"

/-- A text with spaces behind it, up to a width. -/
def column (width : Nat) (s : String) : String :=
  s ++ String.ofList (List.replicate (width - s.length) ' ')

/-- Lines, each of them ended. -/
def lines (ls : List String) : String :=
  String.join (ls.map (· ++ "\n"))

/-- The answer of a metric, over a connection of the command's own. The name of the metric is looked
up there, so an unknown one is reported after the filter was built. -/
def askMetric {α : Type} (args : MetricArgs) (w : Warehouse)
    (question : Metric → Warehouse → Outcome α) : CommandOutcome α :=
  ask ((Session.inFile w).askMetric args.metric question).1

/-- The printed answer of a metric. -/
def answered (args : MetricArgs) (w : Warehouse) (today : Date)
    (answer : Metric → Warehouse → Filter → Outcome Answer) : CommandOutcome String := do
  let f ← args.filter w today
  let a ← askMetric args w fun metric w => answer metric w f
  return printed a.document

/-- The lines of the metrics. -/
def metricLines (source : Option Source) : List String :=
  (Metric.all.filter fun m => source.all (· == m.source)).map fun m =>
    column 14 m.id ++ " " ++ column 4 m.source.name ++ " " ++ m.title

/-- The lines of the settings. -/
def settingLines (w : Warehouse) : List String :=
  match w.allSettings with
  | [] => ["No configuration set. Known keys: " ++ String.intercalate ", " Settings.keys]
  | settings => settings.map fun (key, value) => key ++ " = " ++ value

/-- The lines of the size of a warehouse. -/
def statusLines (w : Warehouse) : List String :=
  "Warehouse Status" :: w.counts.map fun (table, n) => "  " ++ column 18 table ++ " " ++ toString n

/-- Runs a command: what it prints, and the warehouse that it leaves behind. Only storing a setting
changes it. -/
def Command.run (w : Warehouse) (today : Date) : Command → CommandOutcome String × Warehouse
  | .aggregate args => (answered args w today Metric.aggregate, w)
  | .series args => (answered args w today Metric.series, w)
  | .list args => (answered args w today Metric.list, w)
  | .trend args anchor days =>
    (do
      let anchor ← match anchor with
        | some s => ask (readDate s)
        | none => pure today
      let f ← args.filter w today
      let trend ← askMetric args w fun metric w => metric.trend w f anchor days
      return printed trend.document, w)
  | .metrics source =>
    (do
      let source ← match source with
        | some s => (some <$> ask (Source.ofName s) : CommandOutcome (Option Source))
        | none => pure none
      return lines (metricLines source), w)
  | .getSetting key =>
    (.ok (lines [match w.setting? key with
      | some value => key ++ " = " ++ value
      | none => key ++ " is not set"]), w)
  | .setSetting key value =>
    match Settings.store w key value with
    | (.ok (), w) => (.ok (lines ["Config updated."]), w)
    | (.error e, w) => (.error (.request e), w)
  | .listSettings => (.ok (lines (settingLines w)), w)
  | .status => (.ok (lines (statusLines w)), w)

end ActivityMetrics.CommandLine
