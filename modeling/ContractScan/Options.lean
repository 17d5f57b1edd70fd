import ContractScan.Scan

/-!
# Scan options

Options only filter or trim a report. They never change how findings are made or ordered.
-/

namespace ContractScan

/-- What a caller wants to see of a report. -/
structure ScanOptions where
  /-- Keep findings of severity `informational`. -/
  includeInformational : Bool
  /-- Tell the description and the suggestion of each rule. -/
  detailedReport : Bool
  deriving Repr, DecidableEq

def ScanOptions.default : ScanOptions := ⟨true, true⟩

/-- The report without what the options leave out. -/
def ScanOptions.apply (options : ScanOptions) (report : Report) : Report :=
  if options.includeInformational then report
  else report.filter fun finding => finding.severity != .informational

def analyze (catalog : Catalog) (options : ScanOptions) (text : String) : Report :=
  options.apply (scan catalog text)

end ContractScan
