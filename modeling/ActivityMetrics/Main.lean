import ActivityMetrics.CommandLine.Run
import Std.Time.Zoned

/-!
# The program

The command line of the library. It answers from a warehouse without records, so it serves to try
out arguments and formats; a program that loads records uses `ActivityMetrics.LoadStep` and runs the
same commands.
-/

namespace ActivityMetrics.CommandLine

open Calendar

/-- The present day, or the first day of 1970 beyond the calendar. -/
def presentDay : IO Date := do
  let today ← Std.Time.PlainDate.now
  return (Date.ofDay? today.toEpochDay.val).getD default

/-- Runs a command and prints what it answers. Arguments that cannot be used end the program with 2,
and failures with 1. -/
def runOnce (args : List String) : IO UInt32 := do
  match Command.parse args with
  | .error .displayHelp =>
    IO.println Usage.displayHelp.name
    return 0
  | .error usage =>
    IO.eprintln ("error: " ++ usage.name)
    return 2
  | .ok (_, command) =>
    match (command.run .empty (← presentDay)).1 with
    | .ok out =>
      IO.print out
      return 0
    | .error failure =>
      IO.eprintln ("Error: " ++ failure.message)
      return 1

end ActivityMetrics.CommandLine

/-- The program. -/
def main (args : List String) : IO UInt32 :=
  ActivityMetrics.CommandLine.runOnce args
