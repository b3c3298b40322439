import ActivityMetrics.CommandLine.Grammar

/-!
# Commands

The commands of the program and their arguments: four kinds of answer, the list of metrics, the
settings, and the size of the warehouse.
-/

namespace ActivityMetrics.CommandLine

/-- What a metric is asked for, as it stands on the command line. -/
structure MetricArgs where
  /-- The metric. -/
  metric : String
  /-- The first day of the window. -/
  start : Option String
  /-- The day after the last one of the window. -/
  stop : Option String
  /-- A named window. -/
  window : Option String
  /-- The period of a series. -/
  period : Option String
  /-- The selection, as assignments. -/
  filters : List String
  /-- One more binding, as an assignment. -/
  global : Option String
  /-- The people to leave out. -/
  excludedActors : List String
  /-- The organizations to leave out. -/
  excludedOrganizations : List String
  /-- Programs are left out. -/
  excludeBots : Bool
  /-- The greatest number of items. -/
  limit : Option Nat
  /-- The field of the closing condition. -/
  closingField : Option String
  /-- The values of the closing condition, separated by commas. -/
  closingValues : Option String

/-- What is to be done. -/
inductive Command where
  /-- The total, or one value for each item. -/
  | aggregate (args : MetricArgs)
  /-- The series, or one for each item. -/
  | series (args : MetricArgs)
  /-- The comparison of the days before an anchor with the days before them. -/
  | trend (args : MetricArgs) (anchor : Option String) (days : Nat)
  /-- The items with the greatest values. -/
  | list (args : MetricArgs)
  /-- The metrics, of all sources or of one. -/
  | metrics (source : Option String)
  /-- The value of a setting. -/
  | getSetting (key : String)
  /-- A new value for a setting. -/
  | setSetting (key value : String)
  /-- All settings. -/
  | listSettings
  /-- The size of the warehouse. -/
  | status

/-- How much is reported while the program runs. -/
inductive LogLevel where
  /-- Warnings. -/
  | warn
  /-- Also what is done. -/
  | info
  /-- Also how it is done. -/
  | debug
  /-- Everything. -/
  | trace

/-- The name of a level. -/
def LogLevel.name : LogLevel → String
  | .warn => "warn"
  | .info => "info"
  | .debug => "debug"
  | .trace => "trace"

/-- The level for a number of `-v` flags. -/
def LogLevel.ofCount : Nat → LogLevel
  | 0 => .warn
  | 1 => .info
  | 2 => .debug
  | _ => .trace

/-- The options of a metric. -/
def metricSwitches : List Switch :=
  [⟨"metric", .text⟩, ⟨"from", .text⟩, ⟨"to", .text⟩, ⟨"window", .text⟩, ⟨"period", .text⟩,
   ⟨"filter", .texts⟩, ⟨"global", .text⟩, ⟨"exclude-actor", .texts⟩, ⟨"exclude-org", .texts⟩,
   ⟨"exclude-bots", .nothing⟩, ⟨"limit", .number⟩, ⟨"closed-field", .text⟩,
   ⟨"closed-values", .text⟩]

/-- Reads all arguments of a command without subcommands. -/
def leaf (g : Grammar) (args : List String) : Except Usage Parsed := do
  return (← g.scan {} false args).1

/-- Reads the arguments of a metric, with further options. A named window excludes its ends. -/
def metricArgs (more : List Switch) (args : List String) : Except Usage (MetricArgs × Parsed) := do
  let p ← leaf { switches := metricSwitches ++ more } args
  if p.has "window" && (p.has "from" || p.has "to") then throw .argumentConflict
  match p.value? "metric" with
  | none => throw .missingRequiredArgument
  | some metric =>
    return ({
      metric
      start := p.value? "from"
      stop := p.value? "to"
      window := p.value? "window"
      period := p.value? "period"
      filters := p.all "filter"
      global := p.value? "global"
      excludedActors := p.all "exclude-actor"
      excludedOrganizations := p.all "exclude-org"
      excludeBots := p.has "exclude-bots"
      limit := (p.value? "limit").bind Parsed.number?
      closingField := p.value? "closed-field"
      closingValues := p.value? "closed-values" }, p)

/-- A trend compares a week unless another number of days is given. -/
def defaultTrendDays : Nat := 7

/-- The names of a chain of subcommands are known, so that there is help for the last. -/
def helpOn (known : List String → List String) (path : List String) : List String → Usage
  | [] => .displayHelp
  | name :: names =>
    if (known path).contains name then helpOn known (path ++ [name]) names else .invalidSubcommand

/-- The subcommands of the settings. -/
def settingCommands : List String := ["get", "set", "list", "help"]

/-- The subcommands of the program. -/
def commands : List String :=
  ["agg", "ts", "trends", "list", "metrics", "config", "status", "help"]

/-- The subcommands of a chain of subcommands. -/
def subcommandsOf : List String → List String
  | [] => commands
  | ["config"] => settingCommands
  | _ => []

/-- Reads a command about settings. -/
def settingCommand (args : List String) : Except Usage Command := do
  let (_, rest) ← Grammar.scan { switches := [], subcommands := settingCommands } {} false args
  match rest with
  | "get" :: args =>
    match (← leaf { switches := [], positionals := 1 } args).positionals with
    | [key] => return .getSetting key
    | _ => throw .missingRequiredArgument
  | "set" :: args =>
    match (← leaf { switches := [], positionals := 2 } args).positionals with
    | [key, value] => return .setSetting key value
    | _ => throw .missingRequiredArgument
  | "list" :: args =>
    let _ ← leaf { switches := [] } args
    return .listSettings
  | "help" :: names => throw (helpOn subcommandsOf ["config"] names)
  | _ => throw .displayHelpOnMissing

/-- Reads a command. -/
def Command.parse (args : List String) : Except Usage (LogLevel × Command) := do
  let (p, rest) ← Grammar.scan
    { switches := [⟨"db", .text⟩], counter := some ('v', "verbose"), subcommands := commands }
    {} false args
  let level := LogLevel.ofCount p.count
  match rest with
  | "agg" :: args => return (level, .aggregate (← metricArgs [] args).1)
  | "ts" :: args => return (level, .series (← metricArgs [] args).1)
  | "trends" :: args =>
    let (m, p) ← metricArgs [⟨"anchor", .text⟩, ⟨"days", .number⟩] args
    let days := ((p.value? "days").bind Parsed.number?).getD defaultTrendDays
    return (level, .trend m (p.value? "anchor") days)
  | "list" :: args => return (level, .list (← metricArgs [] args).1)
  | "metrics" :: args =>
    let p ← leaf { switches := [⟨"source", .text⟩] } args
    return (level, .metrics (p.value? "source"))
  | "config" :: args => return (level, ← settingCommand args)
  | "status" :: args =>
    let _ ← leaf { switches := [] } args
    return (level, .status)
  | "help" :: names => throw (helpOn subcommandsOf [] names)
  | _ =>
    if p.count = 0 && p.values.isEmpty then throw .displayHelpOnMissing
    else throw .missingSubcommand

end ActivityMetrics.CommandLine
