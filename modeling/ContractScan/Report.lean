import ContractScan.Finding

/-!
# Reports

What a scan of one text found, and what scans of several files found together. Counts are always computed
from the findings, so they cannot disagree with them.
-/

namespace ContractScan

/-- A number for each severity. -/
structure Summary where
  critical : Int
  high : Int
  medium : Int
  low : Int
  informational : Int
  deriving Repr, DecidableEq

namespace Summary

def zero : Summary := ⟨0, 0, 0, 0, 0⟩

/-- One more of a severity. -/
def add (summary : Summary) : Severity → Summary
  | .critical => { summary with critical := summary.critical + 1 }
  | .high => { summary with high := summary.high + 1 }
  | .medium => { summary with medium := summary.medium + 1 }
  | .low => { summary with low := summary.low + 1 }
  | .informational => { summary with informational := summary.informational + 1 }

/-- How many findings have each severity. -/
def ofFindings (findings : List Finding) : Summary :=
  findings.foldl (fun summary finding => summary.add finding.severity) zero

def count (summary : Summary) : Severity → Int
  | .critical => summary.critical
  | .high => summary.high
  | .medium => summary.medium
  | .low => summary.low
  | .informational => summary.informational

def total (summary : Summary) : Int :=
  summary.critical + summary.high + summary.medium + summary.low + summary.informational

/-- The numbers by the names of their buckets. -/
def toJson (summary : Summary) : Json :=
  .object (Severity.all.map fun severity => (severity.key, .int (summary.count severity)))

end Summary

/-- The findings in one text. -/
structure Report where
  findings : List Finding
  deriving DecidableEq

namespace Report

def empty : Report := ⟨[]⟩

def summary (report : Report) : Summary :=
  .ofFindings report.findings

/-- Nothing was found. -/
def isClean (report : Report) : Bool :=
  report.findings.isEmpty

/-- Some finding is at least as urgent as a level. -/
def hasSeverity (report : Report) (level : Severity) : Bool :=
  report.findings.any fun finding => finding.severity.atLeast level

def filter (report : Report) (keep : Finding → Bool) : Report :=
  ⟨report.findings.filter keep⟩

/-- The findings and their summary. -/
def toJson (report : Report) : List (String × Json) :=
  [("results", .array (report.findings.map Finding.toJson)), ("summary", report.summary.toJson)]

end Report

/-- The findings in one file. -/
structure FileReport where
  path : String
  report : Report
  deriving DecidableEq

/-- The report under the path of its file. -/
def FileReport.toJson (file : FileReport) : Json :=
  .object (("file_path", .string file.path) :: file.report.toJson)

/-- The findings in several files. -/
structure ScanResult where
  /-- The reports, in the order in which the files were scanned. -/
  files : List FileReport
  /-- How many files were scanned. -/
  totalFiles : Int
  deriving DecidableEq

namespace ScanResult

def empty : ScanResult := ⟨[], 0⟩

/-- Every finding, file by file. -/
def findings (result : ScanResult) : List Finding :=
  result.files.flatMap fun file => file.report.findings

def summary (result : ScanResult) : Summary :=
  .ofFindings result.findings

/-- Some file has a finding at least as urgent as a level. -/
def hasSeverity (result : ScanResult) (level : Severity) : Bool :=
  result.files.any fun file => file.report.hasSeverity level

/-- One more file has been scanned. -/
def add (result : ScanResult) (file : FileReport) : ScanResult :=
  ⟨result.files ++ [file], result.totalFiles + 1⟩

def mapReports (change : Report → Report) (result : ScanResult) : ScanResult :=
  { result with files := result.files.map fun file => { file with report := change file.report } }

/-- The place that an index names; a negative one counts from the end. -/
def place? (result : ScanResult) (index : Int) : Option Nat :=
  let size : Int := result.files.length
  if 0 ≤ index && index < size then some index.toNat
  else if index < 0 && 0 ≤ index + size then some (index + size).toNat
  else none

/-- Leaves out the report at an index, if there is one. -/
def drop? (result : ScanResult) (index : Int) : Option ScanResult :=
  (result.place? index).map fun place => { result with files := result.files.eraseIdx place }

def toJson (result : ScanResult) : Json :=
  .object [("total_files", .int result.totalFiles),
    ("total_findings", .int result.findings.length),
    ("summary", result.summary.toJson),
    ("files", .array (result.files.map FileReport.toJson))]

end ScanResult

end ContractScan
