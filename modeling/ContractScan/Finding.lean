import ContractScan.Json.Basic
import ContractScan.Rule

/-!
# Findings

A finding says that a rule fired on a line.
-/

namespace ContractScan

/-- The fields that describe the weakness of a rule. -/
def Rule.toJson (rule : Rule) : List (String × Json) :=
  [("id", .string rule.id),
    ("name", .string rule.name),
    ("description", .string rule.description),
    ("severity", .string rule.severity.label),
    ("suggestion", .string rule.suggestion)]

/-- A rule fired on a line. -/
structure Finding where
  /-- The number of the line, counted from one. -/
  line : Nat
  /-- The line without the blanks around it. -/
  code : String
  rule : Rule
  deriving DecidableEq

namespace Finding

def severity (finding : Finding) : Severity :=
  finding.rule.severity

/-- Findings are ordered by severity, the most urgent first, then by line. -/
def precedes (a b : Finding) : Bool :=
  a.severity.rank < b.severity.rank || (a.severity.rank == b.severity.rank && a.line ≤ b.line)

def describe (finding : Finding) : String :=
  "[" ++ finding.severity.label ++ "] " ++ finding.rule.name ++ " at line " ++
    toString finding.line ++ " — " ++ finding.code

/-- The finding with the full description of its rule. -/
def toJson (finding : Finding) : Json :=
  .object [("lineNumber", .int finding.line), ("code", .string finding.code),
    ("vulnerability", .object finding.rule.toJson)]

end Finding

end ContractScan
