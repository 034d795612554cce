/-
This file decides what the program does for its arguments and settings: what it
prints, what it logs, which transport it starts, and with which code it ends.
-/

import Formwork.CommandLine.Arguments
import Formwork.CommandLine.Help
import Formwork.Log

namespace Formwork

/-- The transports that can be started. -/
inductive Transport where
  | stdio
  | sse (host port : Json)

/-- The threshold of a log that nothing else is said about: the one of warnings. -/
def defaultThreshold : Int := 30

/-- What a run of the program does. Without an exit code it goes on with the transport. -/
structure Outcome where
  output : String := ""
  usageError : Option UsageError := none
  threshold : Int := defaultThreshold
  started : Option Transport := none
  exitCode : Option Nat := none

/-- The entries of a log that the threshold lets through. -/
def Outcome.visible (outcome : Outcome) (entries : List LogEntry) : List LogEntry :=
  entries.filter (outcome.threshold ≤ ·.severity.weight)

/-- Why the program cannot run: a description in the help text that cannot be filled, a name that
is no level of logging, or a level that is neither a name nor a number. -/
inductive RunFailure where
  | template (failure : Template.Failure)
  | unknownLevel (name : String)
  | unfitLevel (level : Json)

/-- The message for a program that cannot run. -/
def RunFailure.message : RunFailure → String
  | .template failure => failure.message
  | .unknownLevel name => "Unknown level: " ++ String.ofList (quoted name.toList)
  | .unfitLevel level => "Level not an integer or a valid string: " ++ level.display

/-- The threshold that the name of a level sets. -/
def namedThreshold? : String → Option Int
  | "CRITICAL" => some 50
  | "FATAL" => some 50
  | "ERROR" => some 40
  | "WARNING" => some 30
  | "WARN" => some 30
  | "INFO" => some 20
  | "DEBUG" => some 10
  | "NOTSET" => some 0
  | _ => none

/-- The threshold that a level sets. -/
def logThreshold : Json → Except RunFailure Int
  | .null => .ok defaultThreshold
  | .int level => .ok level
  | .bool level => .ok level.toInt
  | .str name =>
    match namedThreshold? name with
    | some threshold => .ok threshold
    | none => .error (.unknownLevel name)
  | level => .error (.unfitLevel level)

namespace CommandLine

/-- The transport for the arguments, if its name is known. -/
def transport? (arguments : Arguments) : Option Transport :=
  match arguments.transport with
  | .str "stdio" => some .stdio
  | .str "sse" => some (.sse arguments.host arguments.port)
  | _ => none

/-- Logs what is said before the transport starts. -/
def announce (arguments : Arguments) : Logged Unit := do
  Logged.write .info .server ("Transport: " ++ arguments.transport.shown)
  match arguments.transport with
  | .str "sse" =>
    Logged.write .info .server
      ("Listening on " ++ arguments.host.shown ++ ":" ++ arguments.port.shown)
  | _ => return ()

/-- The run for arguments. A transport with an unknown name ends it. -/
def start (threshold : Int) (arguments : Arguments) : Logged Outcome := do
  announce arguments
  match transport? arguments with
  | some transport => return { threshold, started := some transport }
  | none =>
    Logged.write .error .server
      ("Error: Unknown transport: " ++ arguments.transport.shown ++ ". Use 'stdio' or 'sse'.")
    return { threshold, exitCode := some 1 }

/-- The run of the program. The help text is made only when it is asked for, and the level of
logging is looked at only after the arguments have been accepted. -/
def run (settings : Settings) (argv : List String) : Logged (Except RunFailure Outcome) :=
  match Arguments.parse settings argv with
  | .error error => return .ok { usageError := some error, exitCode := some 2 }
  | .ok .help =>
    match Help.text settings with
    | .ok text => return .ok { output := text, exitCode := some 0 }
    | .error failure => return .error (.template failure)
  | .ok (.run arguments) =>
    match logThreshold settings.logLevel with
    | .ok threshold => do
      let outcome ← start threshold arguments
      return .ok outcome
    | .error failure => return .error failure

/-- The last line of the message for refused arguments. -/
def errorLine (error : UsageError) : String := Help.program ++ ": error: " ++ error.message

end CommandLine

end Formwork
