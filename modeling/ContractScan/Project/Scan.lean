import ContractScan.Log
import ContractScan.Project.Walk
import ContractScan.Scan

/-!
# Scanning projects

A target is a file, which is scanned whatever its extension, or a directory, whose listed files are all
scanned. Files that cannot be read are skipped and told about in the log.
-/

namespace ContractScan

/-- What is logged about the scan of a text. Nothing is said of a blank one. -/
def scanRecords (catalog : Catalog) (text : String) : List LogRecord :=
  if Text.isAllBlank text then []
  else
    let lines := (Text.lines text).length
    let findings := (scan catalog text).findings.length
    [⟨.debug, .scan, "scanned " ++ toString lines ++ " line(s): " ++ toString findings ++
      " finding(s)"⟩]

def scanSource (catalog : Catalog) (path : String) (text : String) : FileReport :=
  ⟨path, scan catalog text⟩

namespace FileSystem

def sources (files : FileSystem) (target : Path) : List Path :=
  if files.root.leadsToFile target then [target] else (files.listing .default target).files

/-- The report on the file at a path, if it can be read. -/
def scanFile? (files : FileSystem) (catalog : Catalog) (path : Path) : Option FileReport :=
  match files.root.readSource path with
  | .ok text => some (scanSource catalog path.toString text)
  | .error _ => none

/-- The result after one more file, which is passed over if it cannot be read. -/
def scanNext (files : FileSystem) (catalog : Catalog) (result : ScanResult) (path : Path) : ScanResult :=
  match files.scanFile? catalog path with
  | some report => result.add report
  | none => result

/-- Scans the files of a target one after the other. -/
def scanTarget (files : FileSystem) (catalog : Catalog) (target : Path) : ScanResult :=
  (files.sources target).foldl (files.scanNext catalog) .empty

def walkRecords (files : FileSystem) (target : Path) : List LogRecord :=
  if files.root.leadsToFile target then []
  else [⟨.debug, .files, "found " ++ toString (files.listing .default target).count ++
    " source file(s) under " ++ target.toString⟩]

def fileRecords (files : FileSystem) (catalog : Catalog) (path : Path) : List LogRecord :=
  match files.root.readSource path with
  | .ok text => scanRecords catalog text
  | .error error =>
    [⟨.warning, .project, "skipping unreadable file " ++ path.toString ++ ": " ++ error.message path⟩]

/-- What is logged about the scan of a target. -/
def targetRecords (files : FileSystem) (catalog : Catalog) (target : Path) : List LogRecord :=
  let result := files.scanTarget catalog target
  files.walkRecords target ++
    (files.sources target).flatMap (files.fileRecords catalog) ++
    [⟨.debug, .project, "scanned " ++ toString result.totalFiles ++ " file(s): " ++
      toString result.findings.length ++ " finding(s)"⟩]

end FileSystem

end ContractScan
