import ContractScan.Proofs.Catalog.Builtin
import ContractScan.Proofs.Pattern.Margins
import ContractScan.Proofs.Scan.Order
import ContractScan.Proofs.Text.Lines

/-! # Scans and the margins of lines

A matcher ignores margins if it detects the same on a line and on the trimmed line. The criterion for this
looks at the matcher alone, so it is decided once for every matcher of a catalog; the built-in catalog passes
it. Reports of such a catalog depend on the trimmed lines only.
-/

namespace ContractScan

open Text

/-- The matcher detects the same on a line and on the trimmed line: a text has to be trimmed itself. -/
def Matcher.ignoresMargins : Matcher → Bool
  | .substring needle => trim (Case.lower needle.text.toList) = Case.lower needle.text.toList
  | .regex expression => expression.pattern.referenceFree && expression.pattern.ignoresMargins

def Rule.ignoresMargins (rule : Rule) : Bool :=
  rule.patterns.all Matcher.ignoresMargins

def Catalog.ignoresMargins (catalog : Catalog) : Bool :=
  List.all catalog Rule.ignoresMargins

theorem Matcher.detects_trimmed {matcher : Matcher} (h : matcher.ignoresMargins = true) (line : String) :
    matcher.detects (trimmed line) = matcher.detects line := by
  obtain ⟨u, v, split, hu, hv⟩ := trim_margins line.toList
  cases matcher with
  | substring needle =>
      have solid : IsTrimmed (Case.lower needle.text.toList) := by
        rw [← of_decide_eq_true h]
        exact isTrimmed_trim _
      have same := occursIn_lower_between solid hu (trim line.toList) hv
      rw [← split] at same
      rw [detects, detects, Needle.detects, Needle.detects, toList_trimmed, same]
  | regex expression =>
      rw [ignoresMargins, Bool.and_eq_true] at h
      have same := Pattern.search_between hu (trim line.toList) hv h.1 h.2
      rw [← split] at same
      rw [detects, detects, Expression.detects, Expression.detects, toList_trimmed, same]

theorem Rule.detects_trimmed {rule : Rule} (h : rule.ignoresMargins = true) (line : String) :
    rule.detects (trimmed line) = rule.detects line := by
  rw [Bool.eq_iff_iff, detects, detects, List.any_eq_true, List.any_eq_true]
  refine exists_congr fun matcher => and_congr_right fun member => ?_
  rw [Matcher.detects_trimmed (List.all_eq_true.mp h matcher member)]

variable {catalog : Catalog}

theorem findingsOn_trimmed (h : catalog.ignoresMargins = true) (number : Nat) (line : String) :
    findingsOn catalog number (trimmed line) = findingsOn catalog number line := by
  rw [findingsOn, findingsOn, trimmed_trimmed]
  congr 1
  refine List.filter_congr fun rule member => ?_
  exact Rule.detects_trimmed (List.all_eq_true.mp h rule member) line

theorem findingsFrom_trimmed (h : catalog.ignoresMargins = true) (number : Nat) (lines : List String) :
    findingsFrom catalog number (lines.map trimmed) = findingsFrom catalog number lines := by
  induction lines generalizing number with
  | nil => rfl
  | cons line lines ih =>
      rw [List.map_cons, findingsFrom, findingsFrom, findingsOn_trimmed h, ih]

theorem scan_eq_of_trimmed (h : catalog.ignoresMargins = true) {s t : String}
    (same : (lines s).map trimmed = (lines t).map trimmed) : scan catalog s = scan catalog t := by
  have blank : isAllBlank s = isAllBlank t := by
    rw [Bool.eq_iff_iff, isAllBlank_iff_lines, isAllBlank_iff_lines, same]
  rw [scan, scan, blank, scanLines, scanLines, ← findingsFrom_trimmed h, same, findingsFrom_trimmed h]

theorem detects_code (h : catalog.ignoresMargins = true) {text : String} {finding : Finding}
    (found : finding ∈ (scan catalog text).findings) : finding.rule.detects finding.code = true := by
  rw [scan_eq_scanLines] at found
  obtain ⟨line, -, member⟩ := mem_scanLines.mp found
  obtain ⟨-, code, listed, detected⟩ := mem_findingsOn.mp member
  rwa [code, Rule.detects_trimmed (List.all_eq_true.mp h _ listed)]

/-- No rule detects anything on the empty line. -/
def Catalog.silentOnEmpty (catalog : Catalog) : Bool :=
  List.all catalog fun rule => !rule.detects ""

/-- The criterion for margins, read off what a matcher looks for. -/
def Sought.ignoresMargins : Sought → Bool
  | .text needle => trim (Case.lower needle.toList) = Case.lower needle.toList
  | .shape pattern => pattern.referenceFree && pattern.ignoresMargins

theorem Matcher.ignoresMargins_sought (matcher : Matcher) :
    matcher.sought.ignoresMargins = matcher.ignoresMargins := by
  cases matcher <;> rfl

theorem Builtin.sought_pass : (Builtin.sought.all fun rule => rule.2.all fun sought =>
    sought.ignoresMargins && !sought.detects "") = true := by
  decide +kernel

theorem Builtin.pass_of_mem {rule : Rule} (member : rule ∈ Builtin.catalog) {matcher : Matcher}
    (used : matcher ∈ rule.patterns) : matcher.ignoresMargins = true ∧ matcher.detects "" = false := by
  have pass := List.all_eq_true.mp (List.all_eq_true.mp sought_pass _ (sought_of_mem member)) matcher.sought
    (List.mem_map.mpr ⟨matcher, used, rfl⟩)
  rw [matcher.ignoresMargins_sought, matcher.detects_sought] at pass
  simpa using pass

theorem Builtin.catalog_checked : Catalog.build Builtin.definitions = .ok Builtin.catalog ∧
    Builtin.catalog.ignoresMargins = true ∧ Builtin.catalog.silentOnEmpty = true := by
  refine ⟨build_definitions.1, List.all_eq_true.mpr ?_, List.all_eq_true.mpr ?_⟩
  · intro rule member
    exact List.all_eq_true.mpr fun matcher used => (pass_of_mem member used).1
  · intro rule member
    have silent : rule.detects "" = false :=
      List.any_eq_false.mpr fun matcher used => by simp [(pass_of_mem member used).2]
    rw [silent]
    rfl

theorem Builtin.catalog_ignoresMargins : Builtin.catalog.ignoresMargins = true :=
  catalog_checked.2.1

/-- With the built-in catalog a report depends on the trimmed lines only. So new margins around the lines and
carriage returns before the line feeds change nothing, and every finding is still detected on the code that
it shows. -/
theorem scan_depends_on_trimmed_lines :
    (∀ s t : String, (lines s).map trimmed = (lines t).map trimmed →
      scan Builtin.catalog s = scan Builtin.catalog t) ∧
    (∀ left right : Nat → List Char,
      (∀ number, IsMargin (left number)) → (∀ number, IsMargin (right number)) → ∀ text : String,
        scan Builtin.catalog (respaced left right text) = scan Builtin.catalog text) ∧
    (∀ text : String, scan Builtin.catalog (withReturns text) = scan Builtin.catalog text) ∧
    ∀ (text : String) (finding : Finding), finding ∈ (scan Builtin.catalog text).findings →
      finding.rule.detects finding.code = true := by
  refine ⟨fun s t same => ?_, fun left right hl hr text => ?_, fun text => ?_, fun text finding found => ?_⟩
  · exact scan_eq_of_trimmed Builtin.catalog_ignoresMargins same
  · exact scan_eq_of_trimmed Builtin.catalog_ignoresMargins (map_trimmed_respaced hl hr text)
  · exact scan_eq_of_trimmed Builtin.catalog_ignoresMargins (map_trimmed_withReturns text)
  · exact detects_code Builtin.catalog_ignoresMargins found

theorem scan_depends_on_trimmed_lines_reindented :
    (lines "\tx += 1;  \r\n \u00a0now").map trimmed = (lines "x += 1;\nnow").map trimmed ∧
      scan Builtin.catalog "\tx += 1;  \r\n \u00a0now" = scan Builtin.catalog "x += 1;\nnow" := by
  have same : (lines "\tx += 1;  \r\n \u00a0now").map trimmed = (lines "x += 1;\nnow").map trimmed := by
    decide +kernel
  exact ⟨same, scan_depends_on_trimmed_lines.1 _ _ same⟩

end ContractScan
