import Mathlib.Algebra.Ring.Int.Defs
import Mathlib.Algebra.Ring.Nat
import ContractScan.Proofs.Scan.Order

/-! # Counts and thresholds of reports

The same findings are counted by severity, compared with a level one by one, put together file by file and
written out. Counting over several severities at once relates these views: a sum of counts is the number of
findings of any of the severities, so a level is reached exactly when the counts down to it do not all vanish.
-/

namespace ContractScan

theorem Severity.label_inj {severity other : Severity} : severity.label = other.label ↔ severity = other := by
  cases severity <;> cases other <;> simp [label]

theorem Report.hasSeverity_iff {report : Report} {level : Severity} :
    report.hasSeverity level = true ↔ ∃ finding ∈ report.findings, finding.severity.rank ≤ level.rank := by
  simp [hasSeverity, Severity.atLeast]

theorem ScanResult.hasSeverity_iff {result : ScanResult} {level : Severity} :
    result.hasSeverity level = true ↔
      ∃ file ∈ result.files, ∃ finding ∈ file.report.findings, finding.severity.rank ≤ level.rank := by
  simp [hasSeverity, Report.hasSeverity_iff]

theorem ScanResult.hasSeverity_iff_findings {result : ScanResult} {level : Severity} :
    result.hasSeverity level = true ↔ ∃ finding ∈ result.findings, finding.severity.rank ≤ level.rank := by
  rw [hasSeverity_iff, findings]
  constructor
  · rintro ⟨file, listed, finding, found, reached⟩
    exact ⟨finding, List.mem_flatMap.mpr ⟨file, listed, found⟩, reached⟩
  · rintro ⟨finding, found, reached⟩
    obtain ⟨file, listed, found⟩ := List.mem_flatMap.mp found
    exact ⟨file, listed, finding, found, reached⟩

namespace Summary

theorem count_add (summary : Summary) (found severity : Severity) :
    (summary.add found).count severity = summary.count severity + if found = severity then 1 else 0 := by
  cases found <;> cases severity <;> simp [add, count]

/-- The counts after a run over the findings, whatever they were before it. -/
theorem count_foldl (summary : Summary) (findings : List Finding) (severity : Severity) :
    (findings.foldl (fun summary finding => summary.add finding.severity) summary).count severity =
      summary.count severity + (ofSeverity severity findings).length := by
  induction findings generalizing summary with
  | nil => simp [ofSeverity]
  | cons finding findings ih =>
      rw [List.foldl_cons, ih, count_add]
      by_cases here : finding.severity = severity
      · rw [if_pos here, ofSeverity_cons_of_eq here, List.length_cons]
        omega
      · rw [if_neg here, ofSeverity_cons_of_ne here]
        omega

theorem count_ofFindings (findings : List Finding) (severity : Severity) :
    (ofFindings findings).count severity = (ofSeverity severity findings).length := by
  have none : zero.count severity = 0 := by cases severity <;> rfl
  rw [ofFindings, count_foldl, none, Int.zero_add]

/-- The numbers for the severities are all there is to a summary. -/
theorem ext_count {summary other : Summary} (same : ∀ severity, summary.count severity = other.count severity) :
    summary = other := by
  cases summary
  cases other
  rw [mk.injEq]
  exact ⟨same .critical, same .high, same .medium, same .low, same .informational⟩

theorem count_append (findings others : List Finding) (severity : Severity) :
    (ofFindings (findings ++ others)).count severity =
      (ofFindings findings).count severity + (ofFindings others).count severity := by
  simp [count_ofFindings, ofSeverity]

theorem count_flatMap {α : Type} (f : α → List Finding) (items : List α) (severity : Severity) :
    (ofFindings (items.flatMap f)).count severity =
      (items.map fun item => (ofFindings (f item)).count severity).sum := by
  induction items with
  | nil => simp [count_ofFindings, ofSeverity]
  | cons item items ih => simp only [List.flatMap_cons, count_append, ih, List.map_cons, List.sum_cons]

theorem length_filter_cons {level : Severity} {levels : List Severity} (apart : level ∉ levels)
    (findings : List Finding) :
    (findings.filter fun finding => finding.severity ∈ level :: levels).length =
      (ofSeverity level findings).length +
        (findings.filter fun finding => finding.severity ∈ levels).length := by
  induction findings with
  | nil => rfl
  | cons finding findings ih =>
      by_cases here : finding.severity = level
      · have elsewhere : finding.severity ∉ levels := here ▸ apart
        rw [ofSeverity_cons_of_eq here, List.filter_cons_of_pos (by simp [here]),
          List.filter_cons_of_neg (by simpa using elsewhere), List.length_cons, List.length_cons, ih]
        omega
      · rw [ofSeverity_cons_of_ne here]
        by_cases other : finding.severity ∈ levels
        · rw [List.filter_cons_of_pos (by simp [other]), List.filter_cons_of_pos (by simpa using other),
            List.length_cons, List.length_cons, ih]
          omega
        · rw [List.filter_cons_of_neg (by simp [here, other]), List.filter_cons_of_neg (by simpa using other), ih]

/-- Findings of different severities are counted apart, so a sum of counts is a number of findings. -/
theorem sum_count {levels : List Severity} (distinct : levels.Nodup) (findings : List Finding) :
    (levels.map (ofFindings findings).count).sum =
      (findings.filter fun finding => finding.severity ∈ levels).length := by
  induction levels with
  | nil => simp
  | cons level levels ih =>
      obtain ⟨apart, distinct⟩ := List.nodup_cons.mp distinct
      rw [List.map_cons, List.sum_cons, count_ofFindings, ih distinct, length_filter_cons apart,
        Int.natCast_add]

theorem total_eq_sum (summary : Summary) : summary.total = (Severity.all.map summary.count).sum := by
  simp [total, Severity.all, count]
  omega

theorem total_ofFindings (findings : List Finding) : (ofFindings findings).total = findings.length := by
  have every : (findings.filter fun finding => finding.severity ∈ Severity.all) = findings := by
    apply List.filter_eq_self.mpr
    intro finding _
    cases finding.severity <;> decide
  rw [total_eq_sum, sum_count (by decide), every]

theorem sum_count_pos {level : Severity} {findings : List Finding} :
    0 < ((Severity.all.filter fun severity => severity.rank ≤ level.rank).map (ofFindings findings).count).sum ↔
      ∃ finding ∈ findings, finding.severity.rank ≤ level.rank := by
  have inside (severity : Severity) :
      severity ∈ (Severity.all.filter fun severity => severity.rank ≤ level.rank) ↔
        severity.rank ≤ level.rank := by
    cases severity <;> simp [Severity.all]
  rw [sum_count ((by decide : Severity.all.Nodup).filter _)]
  simp only [inside]
  rw [Int.natCast_pos, List.length_pos_iff_exists_mem]
  simp

theorem field?_toJson (summary : Summary) (severity : Severity) :
    summary.toJson.field? severity.key = some (.int (summary.count severity)) := by
  cases severity <;> rfl

end Summary

/-- Counts and a threshold that say the same as the findings. -/
structure Tallied (findings : List Finding) (summary : Summary) (reaches : Severity → Bool) : Prop where
  count (severity : Severity) : summary.count severity = (ofSeverity severity findings).length
  told (severity : Severity) :
    summary.toJson.field? severity.key = some (.int (ofSeverity severity findings).length)
  total : summary.total = findings.length
  reaches_iff (level : Severity) : reaches level = true ↔
    0 < ((Severity.all.filter fun severity => severity.rank ≤ level.rank).map summary.count).sum
  monotone (level weaker : Severity) : level.rank ≤ weaker.rank → reaches level = true → reaches weaker = true

theorem tallied_ofFindings {findings : List Finding} {reaches : Severity → Bool}
    (h : ∀ level, reaches level = true ↔ ∃ finding ∈ findings, finding.severity.rank ≤ level.rank) :
    Tallied findings (.ofFindings findings) reaches where
  count := Summary.count_ofFindings findings
  told severity := by rw [Summary.field?_toJson, Summary.count_ofFindings]
  total := Summary.total_ofFindings findings
  reaches_iff level := (h level).trans Summary.sum_count_pos.symm
  monotone level weaker le reached := by
    obtain ⟨finding, found, bound⟩ := (h level).mp reached
    exact (h weaker).mpr ⟨finding, found, bound.trans le⟩

theorem Report.tallied (report : Report) : Tallied report.findings report.summary report.hasSeverity :=
  tallied_ofFindings fun _ => hasSeverity_iff

theorem Report.isClean_iff (report : Report) :
    report.isClean = true ↔ report.hasSeverity .informational = false := by
  have every (severity : Severity) : severity.rank ≤ Severity.informational.rank := by
    cases severity <;> decide
  rw [← Bool.not_eq_true, hasSeverity_iff, isClean, List.isEmpty_iff, List.eq_nil_iff_forall_not_mem]
  simp [every]

namespace ScanResult

variable (result : ScanResult) (file : FileReport)

theorem tallied : Tallied result.findings result.summary result.hasSeverity :=
  tallied_ofFindings fun _ => hasSeverity_iff_findings

theorem findings_add : (result.add file).findings = result.findings ++ file.report.findings := by
  simp [findings, add]

theorem hasSeverity_add (level : Severity) : (result.add file).hasSeverity level =
    (result.hasSeverity level || file.report.hasSeverity level) := by
  simp [hasSeverity, add]

theorem total_eq_sum_length :
    result.summary.total = (result.files.map fun file => file.report.findings.length).sum := by
  rw [summary, Summary.total_ofFindings, findings, List.length_flatMap]

end ScanResult

/-- The counts and thresholds of reports and of results never drift from the findings, and those of a result
are put together from those of its files. -/
theorem aggregates_follow_findings (report : Report) (result : ScanResult) (file : FileReport) :
    Tallied report.findings report.summary report.hasSeverity ∧
    (report.isClean = true ↔ report.hasSeverity .informational = false) ∧
    Tallied result.findings result.summary result.hasSeverity ∧
    (∀ severity, result.summary.count severity =
      (result.files.map fun file => file.report.summary.count severity).sum) ∧
    result.toJson.field? "total_findings" = some (.int result.summary.total) ∧
    (∃ (files : List Json) (results : List (List Json)),
      result.toJson.field? "files" = some (.array files) ∧ files.length = result.files.length ∧
      files.map (Json.field? "results") = results.map (fun list => some (.array list)) ∧
      result.summary.total = (results.map List.length).sum) ∧
    (∀ level, result.hasSeverity level = true ↔
      ∃ file ∈ result.files, file.report.hasSeverity level = true) ∧
    (∀ severity, (result.add file).summary.count severity =
      result.summary.count severity + file.report.summary.count severity) ∧
    (result.add file).summary.total = result.summary.total + file.report.summary.total ∧
    ∀ level, (result.add file).hasSeverity level =
      (result.hasSeverity level || file.report.hasSeverity level) := by
  refine ⟨report.tallied, report.isClean_iff, result.tallied, ?_, ?_, ?_, ?_, ?_, ?_, result.hasSeverity_add file⟩
  · intro severity
    exact Summary.count_flatMap _ result.files severity
  · rw [result.tallied.total]
    rfl
  · refine ⟨_, result.files.map fun file => file.report.findings.map Finding.toJson, rfl, by simp, ?_, ?_⟩
    · rw [List.map_map, List.map_map]
      rfl
    · rw [result.total_eq_sum_length]
      simp [Function.comp_def]
  · intro level
    simp [ScanResult.hasSeverity]
  · intro severity
    rw [ScanResult.summary, result.findings_add, Summary.count_append]
    rfl
  · rw [(result.add file).tallied.total, result.tallied.total, file.report.tallied.total, result.findings_add,
      List.length_append, Int.natCast_add]

end ContractScan
