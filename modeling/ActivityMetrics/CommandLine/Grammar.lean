import ActivityMetrics.Text.Digit

/-!
# The grammar of arguments

A command takes options, positional arguments, and possibly a subcommand. An option is written
`--name value` or `--name=value`, a flag `--name`. An argument that begins with a hyphen never is
the value of an option before it. After `--` there are only positional arguments.

Arguments are read from left to right. The value of an option is checked when the next option
begins, or at the end; so of two faults it is the one noticed first that is reported.
-/

namespace ActivityMetrics.CommandLine

/-- Why arguments are rejected. Asking for help is one of the reasons. -/
inductive Usage where
  /-- A required argument is absent. -/
  | missingRequiredArgument
  /-- An argument is not known. -/
  | unknownArgument
  /-- A subcommand is not known. -/
  | invalidSubcommand
  /-- A subcommand is absent. -/
  | missingSubcommand
  /-- Two arguments exclude each other. -/
  | argumentConflict
  /-- The value of an option cannot be used. -/
  | valueValidation
  /-- An option has no value. -/
  | invalidValue
  /-- A flag has a value. -/
  | tooManyValues
  /-- Help is asked for. -/
  | displayHelp
  /-- There is no argument at all. -/
  | displayHelpOnMissing
deriving DecidableEq

/-- The name of a reason. -/
def Usage.name : Usage → String
  | .missingRequiredArgument => "MissingRequiredArgument"
  | .unknownArgument => "UnknownArgument"
  | .invalidSubcommand => "InvalidSubcommand"
  | .missingSubcommand => "MissingSubcommand"
  | .argumentConflict => "ArgumentConflict"
  | .valueValidation => "ValueValidation"
  | .invalidValue => "InvalidValue"
  | .tooManyValues => "TooManyValues"
  | .displayHelp => "DisplayHelp"
  | .displayHelpOnMissing => "DisplayHelpOnMissingArgumentOrSubcommand"

/-- What an option takes. -/
inductive Takes where
  /-- One text. -/
  | text
  /-- One natural number of 32 bits. -/
  | number
  /-- A text at each of several occurrences. -/
  | texts
  /-- Nothing. -/
  | nothing
deriving DecidableEq

/-- An option of a command. -/
structure Switch where
  /-- The name, without hyphens. -/
  name : String
  /-- What the option takes. -/
  takes : Takes
deriving DecidableEq

/-- The arguments of a command. -/
structure Grammar where
  /-- The options. -/
  switches : List Switch
  /-- The flag of one letter that may be repeated, with its long name. -/
  counter : Option (Char × String) := none
  /-- The number of positional arguments. -/
  positionals : Nat := 0
  /-- The names of the subcommands. -/
  subcommands : List String := []

/-- What has been read of the arguments of a command. -/
structure Parsed where
  /-- The options and their values; a flag has the empty one. -/
  values : List (String × String) := []
  /-- The number of occurrences of the repeated flag. -/
  count : Nat := 0
  /-- The positional arguments. -/
  positionals : List String := []
  /-- An option whose value is still to be checked, or still to come. -/
  pending : Option (Switch × Option String) := none

namespace Parsed

/-- The values of an option. -/
def all (p : Parsed) (name : String) : List String :=
  (p.values.filter (·.1 == name)).map Prod.snd

/-- The value of an option. -/
def value? (p : Parsed) (name : String) : Option String :=
  p.values.lookup name

/-- An option occurs. -/
def has (p : Parsed) (name : String) : Bool :=
  (p.value? name).isSome

/-- The value is a number that an option takes. -/
def number? (value : String) : Option Nat :=
  match Text.readInt64? value.toList with
  | some i => if 0 ≤ i ∧ i < 4294967296 then some i.toNat else none
  | none => none

/-- Adds an option with its value. -/
def add (p : Parsed) (s : Switch) (value : String) : Except Usage Parsed :=
  if s.takes ≠ .texts ∧ p.has s.name then .error .argumentConflict
  else if s.takes = .number ∧ (number? value).isNone then .error .valueValidation
  else .ok { p with values := p.values ++ [(s.name, value)] }

/-- Checks the value of the last option, which has to be there. -/
def resolve (p : Parsed) : Except Usage Parsed :=
  match p.pending with
  | none => .ok p
  | some (_, none) => .error .invalidValue
  | some (s, some value) => { p with pending := none }.add s value

end Parsed

/-- The name and the value of an argument `--name=value`. -/
def splitLong (cs : List Char) : String × Option String :=
  match cs.dropWhile (· ≠ '=') with
  | _ :: value => (String.ofList (cs.takeWhile (· ≠ '=')), some (String.ofList value))
  | [] => (String.ofList cs, none)

namespace Grammar

/-- Reads a long option. -/
def long (g : Grammar) (p : Parsed) (cs : List Char) : Except Usage Parsed :=
  let (name, value) := splitLong cs
  match g.switches.find? (·.name == name), value with
  | some s, some v =>
    if s.takes = .nothing then .error .tooManyValues
    else do (← p.resolve).add s v
  | some s, none =>
    if s.takes = .nothing then do (← p.resolve).add s ""
    else do return { ← p.resolve with pending := some (s, none) }
  | none, value =>
    let counts := g.counter.any (·.2 == name)
    if counts || name == "help" then
      match value with
      | some _ => .error .tooManyValues
      | none => do
        let p ← p.resolve
        if counts then return { p with count := p.count + 1 } else throw .displayHelp
    else .error .unknownArgument

/-- Reads the letters of a short option. -/
def short (g : Grammar) (p : Parsed) : List Char → Except Usage Parsed
  | [] => .ok p
  | c :: cs =>
    if g.counter.any (·.1 == c) then do
      let p ← p.resolve
      short g { p with count := p.count + 1 } cs
    else if c = 'h' then do
      let _ ← p.resolve
      throw .displayHelp
    else .error .unknownArgument

/-- Reads a positional argument, if there is room for one. Where a subcommand is expected, another
word is taken for one. -/
def positional (g : Grammar) (p : Parsed) (arg : String) (afterMark : Bool) :
    Except Usage Parsed :=
  if p.positionals.length < g.positionals then do
    let p ← p.resolve
    return { p with positionals := p.positionals ++ [arg] }
  else if g.subcommands.isEmpty || (afterMark && g.subcommands.contains arg) then
    .error .unknownArgument
  else .error .invalidSubcommand

/-- An argument waits for the next one as its value. -/
def awaits (p : Parsed) : Bool :=
  match p.pending with
  | some (_, none) => true
  | _ => false

/-- Reads arguments up to a subcommand, which is given back with what follows. -/
def scan (g : Grammar) (p : Parsed) (afterMark : Bool) :
    List String → Except Usage (Parsed × List String)
  | [] => do return (← p.resolve, [])
  | arg :: args =>
    if afterMark then do scan g (← g.positional p arg true) true args
    else
      match arg.toList with
      | ['-', '-'] => scan g p true args
      | '-' :: '-' :: cs => do scan g (← g.long p cs) false args
      | '-' :: c :: cs => do scan g (← g.short p (c :: cs)) false args
      | _ =>
        match p.pending with
        | some (s, none) => scan g { p with pending := some (s, some arg) } false args
        | _ =>
          if g.subcommands.contains arg then do return (← p.resolve, arg :: args)
          else do scan g (← g.positional p arg false) false args

end Grammar

end ActivityMetrics.CommandLine
