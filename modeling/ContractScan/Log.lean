/-!
# Log records

What the program tells about its progress. Records are values; who runs the program decides which of them
are written.
-/

namespace ContractScan

/-- How important a record is, the least important first. -/
inductive LogLevel where
  | debug
  | info
  | warning
  deriving Repr, DecidableEq

namespace LogLevel

def name : LogLevel → String
  | .debug => "DEBUG"
  | .info => "INFO"
  | .warning => "WARNING"

/-- A number that grows with importance. -/
def weight : LogLevel → Nat
  | .debug => 10
  | .info => 20
  | .warning => 30

end LogLevel

/-- The part of the program that a record comes from. -/
inductive LogSource where
  | scan
  | files
  | project
  | commandLine
  deriving Repr, DecidableEq

def LogSource.name : LogSource → String
  | .scan => "smartguard.core.engine"
  | .files => "smartguard.utils"
  | .project => "smartguard.core.pipeline"
  | .commandLine => "smartguard.cli"

structure LogRecord where
  level : LogLevel
  source : LogSource
  message : String
  deriving Repr, DecidableEq

/-- The record with its level and source. -/
def LogRecord.full (record : LogRecord) : String :=
  record.level.name ++ " " ++ record.source.name ++ ": " ++ record.message

end ContractScan
