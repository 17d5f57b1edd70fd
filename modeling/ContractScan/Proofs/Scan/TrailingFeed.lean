import ContractScan.Proofs.Pattern.EmptyLine
import ContractScan.Proofs.Scan.Composition

/-! # A line feed at the end of a text

A line feed at the end leaves an empty line after the text. Every rule that detects something on the empty line fires
there, and nothing else changes, so the line feed makes no difference exactly for catalogs without such rules. That no
matcher has an empty written form does not exclude them: a text is never found in the empty line, but every pattern is
that can match without a character.
-/

namespace ContractScan

open Text

/-! ## Rules on the empty line -/

theorem Text.Case.lowerAt_ne_nil (before : List Char) (c : Char) (rest : List Char) :
    Case.lowerAt before c rest ≠ [] := by
  unfold Case.lowerAt
  split
  · simp
  · split <;> simp

theorem Needle.detects_empty (needle : Needle) : needle.detects "" = false := by
  have written : needle.text.toList ≠ [] := by simpa using needle.nonempty
  cases text : needle.text.toList with
  | nil => exact absurd text written
  | cons c rest =>
      have small : Case.lower (c :: rest) ≠ [] :=
        List.append_ne_nil_of_left_ne_nil (Case.lowerAt_ne_nil [] c rest) _
      rw [Needle.detects, text]
      exact List.isEmpty_eq_false_iff.mpr small

theorem Rule.detects_empty_iff (rule : Rule) : rule.detects "" = true ↔
    ∃ expression, Matcher.regex expression ∈ rule.patterns ∧ expression.pattern.emptyMatches [] ≠ [] := by
  rw [Rule.detects, List.any_eq_true]
  constructor
  · rintro ⟨matcher, used, found⟩
    cases matcher with
    | substring needle => cases needle.detects_empty.symm.trans found
    | regex expression => exact ⟨expression, used, expression.pattern.search_nil_iff.mp found⟩
  · rintro ⟨expression, used, ways⟩
    exact ⟨.regex expression, used, expression.pattern.search_nil_iff.mpr ways⟩

theorem Catalog.silentOnEmpty_iff {catalog : Catalog} : catalog.silentOnEmpty = true ↔
    ∀ rule ∈ catalog, ∀ expression, Matcher.regex expression ∈ rule.patterns →
      expression.pattern.emptyMatches [] = [] := by
  rw [silentOnEmpty, List.all_eq_true]
  refine forall₂_congr fun rule _ => ?_
  rw [Bool.not_eq_true', ← Bool.not_eq_true, rule.detects_empty_iff]
  simp

/-! ## The line after the line feed -/

theorem isAllBlank_append_feed (text : String) : isAllBlank (text ++ "\n") = isAllBlank text := by
  have feed : isBlank '\n' = true := by decide
  simp [isAllBlank, feed]

theorem lines_append_feed (text : String) : lines (text ++ "\n") = lines text ++ [""] := by
  have alone : lines "" = [""] := lines_of_not_mem (by simp)
  simpa [alone] using lines_append text ""

variable {catalog : Catalog}

theorem ofSeverity_findingsOn_empty (number : Nat) (severity : Severity) :
    ofSeverity severity (findingsOn catalog number "") =
      (catalog.filter fun rule => rule.severity = severity ∧ rule.detects "" = true).map
        fun rule => ⟨number, "", rule⟩ := by
  have empty : trimmed "" = "" := by decide
  rw [ofSeverity_findingsOn, empty]
  simp only [Rule.detects, List.any_eq_true]

theorem ofSeverity_scan_append_feed {text : String} (written : isAllBlank text = false) (severity : Severity) :
    ofSeverity severity (scan catalog (text ++ "\n")).findings =
      ofSeverity severity (scan catalog text).findings ++
        (catalog.filter fun rule => rule.severity = severity ∧ rule.detects "" = true).map
          fun rule => ⟨(lines text).length + 1, "", rule⟩ := by
  have longer : isAllBlank (text ++ "\n") = false := (isAllBlank_append_feed text).trans written
  have added : findingsFrom catalog 1 (lines (text ++ "\n")) =
      findingsFrom catalog 1 (lines text) ++ findingsOn catalog ((lines text).length + 1) "" := by
    rw [lines_append_feed, findingsFrom_append, Nat.add_comm 1]
    simp [findingsFrom]
  rw [ofSeverity_scan, ofSeverity_scan, scannedLines, scannedLines, longer, written]
  simp only [Bool.false_eq_true, if_false]
  rw [added, ofSeverity_append, ofSeverity_findingsOn_empty]

theorem scan_append_feed_eq_iff {text : String} : scan catalog (text ++ "\n") = scan catalog text ↔
    isAllBlank text = true ∨ catalog.silentOnEmpty = true := by
  cases blank : isAllBlank text with
  | true => simp [scan_blank, isAllBlank_append_feed, blank]
  | false =>
      simp only [Bool.false_eq_true, false_or]
      constructor
      · intro same
        apply List.all_eq_true.mpr
        intro rule listed
        -- A rule that fires on the empty line would be one more finding of its severity.
        have added : ofSeverity rule.severity (scan catalog (text ++ "\n")).findings =
            ofSeverity rule.severity (scan catalog text).findings := by rw [same]
        rw [ofSeverity_scan_append_feed blank, List.append_right_eq_self, List.map_eq_nil_iff,
          List.filter_eq_nil_iff] at added
        simpa using added rule listed
      · intro silent
        have same : (scan catalog (text ++ "\n")).findings = (scan catalog text).findings := by
          apply eq_of_ofSeverity (scan_ranked _ _) (scan_ranked _ _)
          intro severity
          rw [ofSeverity_scan_append_feed blank, List.append_right_eq_self, List.map_eq_nil_iff, List.filter_eq_nil_iff]
          intro rule listed
          have quiet : rule.detects "" = false := by simpa using List.all_eq_true.mp silent rule listed
          simp [quiet]
        exact congrArg Report.mk same

/-- A line feed at the end of a text that is not blank adds, severity by severity, one finding for each rule that
detects something on the empty line, after all others, and nothing else. So it makes no difference for any text exactly
if no pattern of the catalog has a way to match the empty line. -/
theorem trailing_feed_adds_empty_line (catalog : Catalog) :
    (∀ (text : String) (severity : Severity), ofSeverity severity (scan catalog (text ++ "\n")).findings =
      ofSeverity severity (scan catalog text).findings ++
        if isAllBlank text then [] else
          (catalog.filter fun rule => rule.severity = severity ∧ rule.detects "" = true).map
            fun rule => ⟨(lines text).length + 1, "", rule⟩) ∧
    (∀ text : String, scan catalog (text ++ "\n") = scan catalog text ↔
      isAllBlank text = true ∨ ∀ rule ∈ catalog, rule.detects "" = false) ∧
    ((∀ text : String, scan catalog (text ++ "\n") = scan catalog text) ↔
      ∀ rule ∈ catalog, ∀ expression, Matcher.regex expression ∈ rule.patterns →
        expression.pattern.emptyMatches [] = []) := by
  refine ⟨?_, ?_, ?_⟩
  · intro text severity
    split
    · rename_i blank
      rw [scan_append_feed_eq_iff.mpr (.inl blank), List.append_nil]
    · rename_i written
      exact ofSeverity_scan_append_feed (Bool.eq_false_iff.mpr written) severity
  · intro text
    rw [scan_append_feed_eq_iff, Catalog.silentOnEmpty, List.all_eq_true]
    simp
  · rw [← Catalog.silentOnEmpty_iff]
    constructor
    · intro same
      exact (scan_append_feed_eq_iff.mp (same "x")).resolve_left (by decide)
    · intro silent text
      exact scan_append_feed_eq_iff.mpr (.inr silent)

/-- A starred letter is no empty pattern, but it matches the line after the last line feed. -/
theorem starred_letter_fires_after_last_feed : ∃ catalog,
    Catalog.build [⟨some "spare", some "Spare", some "", some (.number 1), some (.entries [.source "a*"]), some ""⟩] =
      .ok catalog ∧
    scan catalog ("b" ++ "\n") ≠ scan catalog "b" := by
  let star : Expression := ⟨"a*", .span (.single 0x61 false) ⟨0, none⟩ .most, by decide⟩
  refine ⟨[⟨"spare", "Spare", "", .high, [.regex star], ""⟩], by decide +kernel, ?_⟩
  rw [Ne, scan_append_feed_eq_iff]
  decide +kernel

end ContractScan
