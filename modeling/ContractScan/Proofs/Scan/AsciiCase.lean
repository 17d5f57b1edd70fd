import ContractScan.Proofs.Catalog.Builtin
import ContractScan.Proofs.Pattern.AsciiCase
import ContractScan.Proofs.Scan.Order

/-! # Scans and the case of ASCII letters

Nothing that a catalog can hold sees whether an ASCII letter is a capital. So texts that differ in that only have the
same findings, up to the code that the findings show: the same rules on the same lines, in the same order.
-/

namespace ContractScan

open Text

theorem Needle.detects_toLower (needle : Needle) (line : String) :
    needle.detects line.toLower = needle.detects line := by
  rw [detects, detects, toList_toLower, Case.lower_toLower]

theorem Matcher.detects_toLower (matcher : Matcher) (line : String) :
    matcher.detects line.toLower = matcher.detects line := by
  cases matcher with
  | substring needle => exact needle.detects_toLower line
  | regex expression =>
      rw [detects, detects, Expression.detects, Expression.detects, toList_toLower, Pattern.search_toLower]

theorem Rule.detects_toLower (rule : Rule) (line : String) : rule.detects line.toLower = rule.detects line := by
  simp only [detects, Matcher.detects_toLower]

/-- Where a rule fired, without the code that is shown. -/
def Finding.place (finding : Finding) : Nat × Rule :=
  (finding.line, finding.rule)

theorem map_place_ofSeverity (severity : Severity) (findings : List Finding) :
    (ofSeverity severity findings).map Finding.place =
      (findings.map Finding.place).filter fun place => place.2.severity = severity := by
  rw [List.filter_map]
  rfl

theorem map_place_findingsOn_toLower (catalog : Catalog) (number : Nat) (line : String) :
    (findingsOn catalog number line.toLower).map Finding.place =
      (findingsOn catalog number line).map Finding.place := by
  simp only [findingsOn, List.map_map, Function.comp_def, Finding.place, Rule.detects_toLower]

theorem map_place_findingsFrom_toLower (catalog : Catalog) (number : Nat) (lines : List String) :
    (findingsFrom catalog number (lines.map String.toLower)).map Finding.place =
      (findingsFrom catalog number lines).map Finding.place := by
  induction lines generalizing number with
  | nil => rfl
  | cons line lines ih =>
      simp only [List.map_cons, findingsFrom, List.map_append, map_place_findingsOn_toLower, ih]

theorem scannedLines_toLower (text : String) :
    scannedLines text.toLower = (scannedLines text).map String.toLower := by
  rw [scannedLines, scannedLines, isAllBlank_toLower, lines_toLower]
  split <;> rfl

theorem map_place_scan_toLower (catalog : Catalog) (text : String) :
    (scan catalog text.toLower).findings.map Finding.place = (scan catalog text).findings.map Finding.place := by
  -- The code of a finding differs, so the two lists are compared severity by severity and not sorted again.
  rw [eq_flatMap_ofSeverity (scan_ranked catalog text.toLower), eq_flatMap_ofSeverity (scan_ranked catalog text)]
  simp only [List.map_flatMap, map_place_ofSeverity, ofSeverity_scan, scannedLines_toLower,
    map_place_findingsFrom_toLower]

/-- Whatever the catalog, texts that are equal up to the case of ASCII letters are reported alike, and texts to be found
that are equal up to the case of ASCII letters are found on the same lines. -/
theorem scan_ignores_ascii_case :
    (∀ (catalog : Catalog) (s t : String), s.toLower = t.toLower →
      (scan catalog s).findings.map (fun finding => (finding.line, finding.rule)) =
        (scan catalog t).findings.map fun finding => (finding.line, finding.rule)) ∧
    ∀ needle other : Needle, needle.text.toLower = other.text.toLower → ∀ line : String,
      needle.detects line = other.detects line := by
  constructor
  · intro catalog s t same
    have left := map_place_scan_toLower catalog s
    have right := map_place_scan_toLower catalog t
    rw [same] at left
    exact left.symm.trans right
  · intro needle other same line
    have lowered : Case.lower needle.text.toList = Case.lower other.text.toList := by
      rw [← Case.lower_toLower, ← toList_toLower, same, toList_toLower, Case.lower_toLower]
    rw [Needle.detects, Needle.detects, lowered]

/-- A rule with a boundary on each side of its word, and a final sigma after a capital and after a small letter. -/
theorem scan_ignores_ascii_case_sigma :
    (scan Builtin.catalog "TX.Origin;\nreturn NOW").findings.map (fun finding => (finding.line, finding.rule)) =
      (scan Builtin.catalog "tx.oRIGIN;\nRETURN now").findings.map (fun finding => (finding.line, finding.rule)) ∧
    (⟨"AΣ", by decide⟩ : Needle).detects "(baΣ)" = true ∧ (⟨"aΣ", by decide⟩ : Needle).detects "(baΣ)" = true := by
  have texts : "TX.Origin;\nreturn NOW".toLower = "tx.oRIGIN;\nRETURN now".toLower :=
    toLower_inj.mpr (by decide)
  have found : (⟨"AΣ", by decide⟩ : Needle).detects "(baΣ)" = true := by decide +kernel
  have same := scan_ignores_ascii_case.2 ⟨"AΣ", by decide⟩ ⟨"aΣ", by decide⟩ (toLower_inj.mpr (by decide)) "(baΣ)"
  exact ⟨scan_ignores_ascii_case.1 Builtin.catalog _ _ texts, found, same.symm.trans found⟩

end ContractScan
