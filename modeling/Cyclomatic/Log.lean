/-!
# Logs

Lines about the course of the work, with a level and the part of the program that they are from.
-/

namespace Cyclomatic

/-- How much a log entry matters. -/
inductive LogLevel where
  | debug
  | warning
deriving DecidableEq, Repr

/-- The name of a level. -/
def LogLevel.name : LogLevel → String
  | debug => "DEBUG"
  | warning => "WARNING"

/-- The part of the program that an entry is from. -/
inductive LogTopic where
  | analysis
  | scan
  | commandLine
deriving DecidableEq, Repr

/-- The name of a topic. -/
def LogTopic.name : LogTopic → String
  | analysis => "complexityscanner.core.analyzer"
  | scan => "complexityscanner.scanner"
  | commandLine => "complexityscanner.cli"

/-- An entry of a log. -/
structure LogEntry where
  level : LogLevel
  topic : LogTopic
  message : String
deriving DecidableEq, Repr

/-- The line of an entry. -/
def LogEntry.line (e : LogEntry) : String :=
  e.level.name ++ " " ++ e.topic.name ++ ": " ++ e.message

end Cyclomatic
