/-
This file is the command line of the program. It reads the settings from the
environment, prints what the run of the arguments prints and logs, and ends with
its code. The transports themselves are run by the host of the library.
-/

import Formwork.CommandLine.Run

namespace Formwork

/-- The environment variables that hold settings. -/
def settingNames : List String :=
  ["SCHEMA_FORM_DEFAULT_METHOD", "SCHEMA_FORM_PATTERN_ERROR", "MCP_TRANSPORT", "MCP_PORT",
    "SCHEMA_FORM_LOG_LEVEL", "SCHEMA_FORM_JSON_INDENT"]

/-- The environment variables that are set, with their values. -/
def readEnvironment : IO (List (String × String)) :=
  settingNames.filterMapM fun name => do
    return (← IO.getEnv name).map (name, ·)

/-- Prints what a run prints and logs, and returns its exit code. -/
def printOutcome (outcome : Outcome) (log : List LogEntry) : IO UInt32 := do
  IO.print outcome.output
  match outcome.usageError with
  | some error => IO.eprint (Help.usage ++ CommandLine.errorLine error ++ "\n")
  | none => pure ()
  for entry in outcome.visible log do
    IO.eprintln entry.line
  return UInt32.ofNat (outcome.exitCode.getD 0)

end Formwork

open Formwork in
/-- Runs the program. -/
def main (argv : List String) : IO UInt32 := do
  let environment ← readEnvironment
  match Settings.ofEnvironment fun name => (environment.find? (·.1 == name)).map (·.2) with
  | .error bad =>
    IO.eprintln bad.message
    return 1
  | .ok settings =>
    let logged := CommandLine.run settings argv
    match logged.value with
    | .error failure =>
      IO.eprintln failure.message
      return 1
    | .ok outcome => printOutcome outcome logged.entries
