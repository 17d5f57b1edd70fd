import ContractScan.Proofs.Report.Aggregates
import ContractScan.Proofs.Scan.Blank

/-! # Scans of texts that are put together

Lines are scanned one by one, so the findings of two texts on top of each other are those of the first and
those of the second, moved down by the lines of the first. Sorting mixes the two only between severities:
within one severity they follow each other. The blank text is scanned line by line like any other here, for
catalogs that detect nothing on blank lines.
-/

namespace ContractScan

open Text

def Finding.shift (count : Nat) (finding : Finding) : Finding :=
  { finding with line := finding.line + count }

/-- The findings on one line, in the order in which they stand. -/
def onLine (number : Nat) (findings : List Finding) : List Finding :=
  findings.filter fun finding => finding.line = number

theorem ofSeverity_append (severity : Severity) (findings others : List Finding) :
    ofSeverity severity (findings ++ others) =
      ofSeverity severity findings ++ ofSeverity severity others := by
  simp [ofSeverity]

theorem ofSeverity_shift (severity : Severity) (count : Nat) (findings : List Finding) :
    ofSeverity severity (findings.map (Finding.shift count)) =
      (ofSeverity severity findings).map (Finding.shift count) := by
  simp only [ofSeverity, List.filter_map]
  rfl

variable {catalog : Catalog}

theorem findingsOn_shift (count number : Nat) (line : String) :
    findingsOn catalog (number + count) line = (findingsOn catalog number line).map (Finding.shift count) := by
  simp [findingsOn, Finding.shift]

theorem findingsFrom_shift (count number : Nat) (lines : List String) :
    findingsFrom catalog (number + count) lines =
      (findingsFrom catalog number lines).map (Finding.shift count) := by
  induction lines generalizing number with
  | nil => rfl
  | cons line lines ih =>
      simp only [findingsFrom, List.map_append, findingsOn_shift, ← ih, Nat.add_right_comm number count 1]

theorem findingsFrom_append (number : Nat) (lines others : List String) :
    findingsFrom catalog number (lines ++ others) =
      findingsFrom catalog number lines ++ findingsFrom catalog (number + lines.length) others := by
  induction lines generalizing number with
  | nil => rfl
  | cons line lines ih =>
      simp [findingsFrom, ih, Nat.add_assoc, Nat.add_comm 1]

theorem onLine_findingsOn (number : Nat) (line : String) :
    onLine number (findingsOn catalog number line) = findingsOn catalog number line := by
  apply List.filter_eq_self.mpr
  intro finding found
  simp [(mem_findingsOn.mp found).1]

theorem onLine_findingsFrom {lines : List String} {place : Nat} {line : String}
    (here : lines[place]? = some line) (number : Nat) :
    onLine (number + place) (findingsFrom catalog number lines) =
      findingsOn catalog (number + place) line := by
  induction lines generalizing number place with
  | nil => simp at here
  | cons first lines ih =>
      rw [findingsFrom, onLine, List.filter_append, ← onLine, ← onLine]
      cases place with
      | zero =>
          have later : onLine number (findingsFrom catalog (number + 1) lines) = [] := by
            apply List.filter_eq_nil_iff.mpr
            intro finding found
            have below := le_line_of_mem_findingsFrom found
            rw [decide_eq_true_eq]
            omega
          obtain rfl : first = line := by simpa using here
          simp [onLine_findingsOn, later]
      | succ place =>
          have earlier : onLine (number + (place + 1)) (findingsOn catalog number first) = [] := by
            apply List.filter_eq_nil_iff.mpr
            intro finding found
            have above := (mem_findingsOn.mp found).1
            rw [decide_eq_true_eq]
            omega
          have next := ih (by simpa using here) (number + 1)
          rw [earlier, List.nil_append, ← Nat.add_assoc, Nat.add_right_comm]
          exact next

section

variable (silent : catalog.SilentOnBlanks)

include silent

theorem ofSeverity_scan_lines (severity : Severity) (text : String) :
    ofSeverity severity (scan catalog text).findings =
      ofSeverity severity (findingsFrom catalog 1 (lines text)) := by
  rw [ofSeverity_scan, silent.findingsFrom_scannedLines]

theorem ofSeverity_scan_append (severity : Severity) (text other : String) :
    ofSeverity severity (scan catalog (text ++ "\n" ++ other)).findings =
      ofSeverity severity (scan catalog text).findings ++
        (ofSeverity severity (scan catalog other).findings).map
          (Finding.shift (1 + text.toList.count '\n')) := by
  simp only [ofSeverity_scan_lines silent, lines_append, findingsFrom_append, ofSeverity_append,
    findingsFrom_shift, ofSeverity_shift, length_lines]

theorem count_scan_append (severity : Severity) (text other : String) :
    (scan catalog (text ++ "\n" ++ other)).summary.count severity =
      (scan catalog text).summary.count severity + (scan catalog other).summary.count severity := by
  simp [Report.summary, Summary.count_ofFindings, ofSeverity_scan_append silent]

/-- What is found on a line of a text is what is found on the line alone. -/
theorem onLine_scan {text line : String} {place : Nat} (here : (lines text)[place]? = some line) :
    onLine (place + 1) (scan catalog text).findings =
      (scan catalog line).findings.map (Finding.shift place) := by
  apply eq_of_ofSeverity
  · exact (scan_ranked catalog text).filter _
  · exact List.pairwise_map.mpr (scan_ranked catalog line)
  · intro severity
    have alone : lines line = [line] := lines_of_not_mem (not_mem_of_mem_lines (List.mem_of_getElem? here))
    calc ofSeverity severity (onLine (place + 1) (scan catalog text).findings)
      _ = onLine (1 + place) (ofSeverity severity (findingsFrom catalog 1 (lines text))) := by
          rw [onLine, ofSeverity_filter, ofSeverity_scan_lines silent, ← onLine, Nat.add_comm]
      _ = ofSeverity severity (findingsOn catalog (1 + place) line) := by
          rw [onLine, ← ofSeverity_filter, ← onLine, onLine_findingsFrom here]
      _ = (ofSeverity severity (findingsFrom catalog 1 (lines line))).map (Finding.shift place) := by
          simp [alone, findingsFrom, findingsOn_shift, ofSeverity_shift]
      _ = ofSeverity severity ((scan catalog line).findings.map (Finding.shift place)) := by
          rw [ofSeverity_shift, ofSeverity_scan_lines silent]

theorem scan_blank_append {blank : String} (h : isAllBlank blank = true) (text : String) :
    (scan catalog (blank ++ "\n" ++ text)).findings =
      (scan catalog text).findings.map (Finding.shift (1 + blank.toList.count '\n')) := by
  apply eq_of_ofSeverity (scan_ranked _ _)
  · exact List.pairwise_map.mpr (scan_ranked catalog text)
  · intro severity
    rw [ofSeverity_scan_append silent, ofSeverity_shift, scan_blank h]
    simp [Report.empty, ofSeverity]

theorem scan_append_blank {blank : String} (h : isAllBlank blank = true) (text : String) :
    scan catalog (text ++ "\n" ++ blank) = scan catalog text := by
  have same : (scan catalog (text ++ "\n" ++ blank)).findings = (scan catalog text).findings := by
    apply eq_of_ofSeverity (scan_ranked _ _) (scan_ranked _ _)
    intro severity
    rw [ofSeverity_scan_append silent, scan_blank h]
    simp [Report.empty, ofSeverity]
  exact congrArg Report.mk same

end

/-- With the built-in catalog two texts on top of each other show, severity by severity, what each shows
alone. So a line shows what it shows alone, and blank lines around a text only move its findings. -/
theorem builtin_scan_compositional :
    (∀ text other : String,
      (∀ severity, ofSeverity severity (scan Builtin.catalog (text ++ "\n" ++ other)).findings =
        ofSeverity severity (scan Builtin.catalog text).findings ++
          (ofSeverity severity (scan Builtin.catalog other).findings).map
            (Finding.shift (1 + text.toList.count '\n'))) ∧
      ∀ severity, (scan Builtin.catalog (text ++ "\n" ++ other)).summary.count severity =
        (scan Builtin.catalog text).summary.count severity +
          (scan Builtin.catalog other).summary.count severity) ∧
    (∀ (text line : String) (place : Nat), (lines text)[place]? = some line →
      onLine (place + 1) (scan Builtin.catalog text).findings =
        (scan Builtin.catalog line).findings.map (Finding.shift place)) ∧
    ∀ blank text : String, isAllBlank blank = true →
      (scan Builtin.catalog (blank ++ "\n" ++ text)).findings =
        (scan Builtin.catalog text).findings.map (Finding.shift (1 + blank.toList.count '\n')) ∧
      scan Builtin.catalog (text ++ "\n" ++ blank) = scan Builtin.catalog text := by
  have silent := Builtin.catalog_silentOnBlanks
  refine ⟨?_, ?_, ?_⟩
  · intro text other
    exact ⟨fun severity => ofSeverity_scan_append silent severity text other,
      fun severity => count_scan_append silent severity text other⟩
  · intro text line place here
    exact onLine_scan silent here
  · intro blank text h
    exact ⟨scan_blank_append silent h text, scan_append_blank silent h text⟩

theorem builtin_scan_compositional_padded :
    isAllBlank " \n\t" = true ∧ (lines "x += 1;\nnow")[1]? = some "now" ∧
      (scan Builtin.catalog (" \n\t" ++ "\n" ++ "now")).findings =
        (scan Builtin.catalog "now").findings.map (Finding.shift 2) ∧
      onLine 2 (scan Builtin.catalog "x += 1;\nnow").findings =
        (scan Builtin.catalog "now").findings.map (Finding.shift 1) := by
  have blank : isAllBlank " \n\t" = true := by decide +kernel
  have here : (lines "x += 1;\nnow")[1]? = some "now" := by decide +kernel
  exact ⟨blank, here, (builtin_scan_compositional.2.2 _ "now" blank).1,
    builtin_scan_compositional.2.1 _ _ 1 here⟩

end ContractScan
