/-
This file defines the log as data: what is logged is part of a result, together
with its value, so that a run can be compared with another one.
-/

namespace Formwork

/-- The severities of log entries. -/
inductive Severity where
  | debug
  | info
  | warning
  | error
  | critical
  deriving DecidableEq, Repr

namespace Severity

/-- The name of a severity. -/
def name : Severity → String
  | .debug => "DEBUG"
  | .info => "INFO"
  | .warning => "WARNING"
  | .error => "ERROR"
  | .critical => "CRITICAL"

/-- The weight of a severity against the threshold of a log. -/
def weight : Severity → Nat
  | .debug => 10
  | .info => 20
  | .warning => 30
  | .error => 40
  | .critical => 50

end Severity

/-- The parts of the program that log. -/
inductive LogSource where
  | library
  | server
  deriving DecidableEq, Repr

/-- The name of a source. -/
def LogSource.name : LogSource → String
  | .library => "schema-form"
  | .server => "schema-form-mcp"

/-- An entry of the log. -/
structure LogEntry where
  severity : Severity
  source : LogSource
  text : String
  deriving DecidableEq, Repr

/-- An entry with its severity and source in front of its text. -/
def LogEntry.line (entry : LogEntry) : String :=
  entry.severity.name ++ ":" ++ entry.source.name ++ ":" ++ entry.text

/-- A value with what was logged on the way to it, in order. -/
structure Logged (α : Type) where
  value : α
  entries : List LogEntry := []

namespace Logged

/-- Goes on with the value and appends what is logged then. -/
def andThen (logged : Logged α) (next : α → Logged β) : Logged β :=
  let result := next logged.value
  ⟨result.value, logged.entries ++ result.entries⟩

instance : Monad Logged where
  pure value := ⟨value, []⟩
  bind := andThen

/-- Logs one entry. -/
def write (severity : Severity) (source : LogSource) (text : String) : Logged Unit :=
  ⟨(), [⟨severity, source, text⟩]⟩

end Logged

end Formwork
