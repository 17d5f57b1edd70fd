import ContractScan.Report
import ContractScan.Text.Lines

/-!
# Scanning

A scan tests every rule of a catalog on every line. A rule fires at most once on a line, however many of
its matchers detect something there.
-/

namespace ContractScan

/-- The findings of one line, in catalog order. -/
def findingsOn (catalog : Catalog) (number : Nat) (line : String) : List Finding :=
  (catalog.filter fun rule => rule.detects line).map fun rule => ⟨number, Text.trimmed line, rule⟩

/-- The findings of lines that are numbered from `number` on, line by line. -/
def findingsFrom (catalog : Catalog) (number : Nat) : List String → List Finding
  | [] => []
  | line :: lines => findingsOn catalog number line ++ findingsFrom catalog (number + 1) lines

/-- Scans lines, which are numbered from one. Findings are ordered by severity and line; those that agree in
both keep the order of the catalog. -/
def scanLines (catalog : Catalog) (lines : List String) : Report :=
  ⟨(findingsFrom catalog 1 lines).mergeSort Finding.precedes⟩

/-- Scans a text. A blank text has no findings. -/
def scan (catalog : Catalog) (text : String) : Report :=
  if Text.isAllBlank text then .empty else scanLines catalog (Text.lines text)

end ContractScan
