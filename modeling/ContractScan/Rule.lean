import ContractScan.Matcher
import ContractScan.Severity

/-!
# Rules

A rule describes a class of weakness and the matchers that detect it on a line.
-/

namespace ContractScan

/-- A class of weakness. -/
structure Rule where
  /-- A stable identifier, such as `reentrancy`. -/
  id : String
  /-- The title. -/
  name : String
  /-- What the weakness is. -/
  description : String
  severity : Severity
  /-- The matchers, each of which is enough. -/
  patterns : List Matcher
  /-- What to do about it. -/
  suggestion : String
  deriving DecidableEq

/-- Some matcher of the rule detects the weakness on the line. -/
def Rule.detects (rule : Rule) (line : String) : Bool :=
  rule.patterns.any fun pattern => pattern.detects line

/-- Rules in the order in which they are tested. -/
abbrev Catalog := List Rule

def Catalog.find? (catalog : Catalog) (id : String) : Option Rule :=
  List.find? (fun rule => rule.id == id) catalog

end ContractScan
