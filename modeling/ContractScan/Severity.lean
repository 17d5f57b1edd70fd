import ContractScan.Text.Lines
import ContractScan.Text.Case.Upper
import ContractScan.Text.Quoted

/-!
# Severities

How urgent a finding is. A lower rank is more urgent.
-/

namespace ContractScan

/-- Severity levels, the most urgent first. -/
inductive Severity where
  | critical
  | high
  | medium
  | low
  | informational
  deriving Repr, DecidableEq

namespace Severity

/-- Every severity, the most urgent first. -/
def all : List Severity :=
  [.critical, .high, .medium, .low, .informational]

/-- The place among all severities, counted from zero. -/
def rank : Severity → Nat
  | .critical => 0
  | .high => 1
  | .medium => 2
  | .low => 3
  | .informational => 4

def ofRank? (rank : Int) : Option Severity :=
  all.find? fun severity => (severity.rank : Int) == rank

/-- The name in capitals, by which a severity is read. -/
def name : Severity → String
  | .critical => "CRITICAL"
  | .high => "HIGH"
  | .medium => "MEDIUM"
  | .low => "LOW"
  | .informational => "INFORMATIONAL"

/-- The name that is displayed. -/
def label : Severity → String
  | .critical => "Critical"
  | .high => "High"
  | .medium => "Medium"
  | .low => "Low"
  | .informational => "Informational"

/-- The name of the bucket in a summary. -/
def key : Severity → String
  | .critical => "critical"
  | .high => "high"
  | .medium => "medium"
  | .low => "low"
  | .informational => "informational"

/-- At least as urgent as a level. -/
def atLeast (severity level : Severity) : Bool :=
  severity.rank ≤ level.rank

/-- The severity that a text names, whatever its case and the blanks around it. -/
def parse? (text : String) : Option Severity :=
  let capitals := Text.Case.upper (Text.trim text.toList)
  all.find? fun severity => severity.name.toList == capitals

/-- What is said of a text that names no severity. -/
def unknownMessage (text : String) : String :=
  "Unknown severity: " ++ Text.quoted text ++ ". Must be one of: " ++
    ", ".intercalate (all.map label)

end Severity

end ContractScan
