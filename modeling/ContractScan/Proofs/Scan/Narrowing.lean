import ContractScan.Options
import ContractScan.Proofs.Catalog.Build
import ContractScan.Proofs.Scan.Margins

/-! # Reports that are narrowed down

Callers leave findings out of a report by tests of their own and by options, as often as they like. Each such
call is a filter, so a run of them is one filter too, and what holds of every part of a scan's report holds
after any run. Nothing removes duplicates: a catalog that has been built has no identifier twice, a rule fires
once on a line, and each line is visited once.
-/

namespace ContractScan

open Text

/-- A call that leaves findings out of a report. -/
inductive Narrowing where
  | keep (test : Finding → Bool)
  | options (chosen : ScanOptions)

namespace Narrowing

def apply : Narrowing → Report → Report
  | .keep test, report => report.filter test
  | .options chosen, report => chosen.apply report

def accepts : Narrowing → Finding → Bool
  | .keep test, finding => test finding
  | .options chosen, finding => chosen.includeInformational || finding.severity != .informational

theorem apply_eq_filter (call : Narrowing) (report : Report) :
    call.apply report = report.filter call.accepts := by
  cases call with
  | keep test => rfl
  | options chosen =>
      have accepted : (options chosen).accepts = fun finding =>
        chosen.includeInformational || finding.severity != .informational := rfl
      rw [apply, ScanOptions.apply, accepted]
      cases chosen.includeInformational <;> simp [Report.filter]

end Narrowing

/-- The report after several calls, the first of them first. -/
def Report.narrow (report : Report) (calls : List Narrowing) : Report :=
  calls.foldl (fun narrowed call => call.apply narrowed) report

theorem Report.narrow_eq_filter (report : Report) (calls : List Narrowing) :
    report.narrow calls = report.filter fun finding => calls.all fun call => call.accepts finding := by
  induction calls generalizing report with
  | nil => simp [narrow, filter]
  | cons call calls ih =>
      have step : report.narrow (call :: calls) = (call.apply report).narrow calls := rfl
      rw [step, ih, call.apply_eq_filter]
      simp [filter, Bool.and_comm]

/-- Where a rule fired: no two findings of a report share this. -/
def Finding.key (finding : Finding) : Nat × String :=
  (finding.line, finding.rule.id)

variable {catalog : Catalog}

theorem findingsOn_keys (distinct : (catalog.map Rule.id).Nodup) (number : Nat) (line : String) :
    ((findingsOn catalog number line).map Finding.key).Nodup := by
  have some : ((catalog.filter fun rule => rule.detects line).map Rule.id).Nodup :=
    distinct.sublist (List.filter_sublist.map Rule.id)
  rw [findingsOn, List.map_map]
  apply List.pairwise_map.mpr
  apply (List.pairwise_map.mp some).imp
  intro rule other apart same
  exact apart (congrArg Prod.snd same)

theorem findingsFrom_keys (distinct : (catalog.map Rule.id).Nodup) (number : Nat) (lines : List String) :
    ((findingsFrom catalog number lines).map Finding.key).Nodup := by
  induction lines generalizing number with
  | nil => exact .nil
  | cons line lines ih =>
      rw [findingsFrom, List.map_append, List.nodup_append]
      refine ⟨findingsOn_keys distinct number line, ih (number + 1), ?_⟩
      -- Findings of this line and of a later one differ in their lines.
      intro key here other there same
      obtain ⟨finding, found, rfl⟩ := List.mem_map.mp here
      obtain ⟨finding', found', rfl⟩ := List.mem_map.mp there
      have first := (mem_findingsOn.mp found).1
      have later := le_line_of_mem_findingsFrom found'
      have together : finding.line = finding'.line := congrArg Prod.fst same
      omega

theorem scan_keys (distinct : (catalog.map Rule.id).Nodup) (text : String) :
    ((scan catalog text).findings.map Finding.key).Nodup := by
  rw [scan_eq_scanLines, ((scanLines_perm catalog _).map Finding.key).nodup_iff]
  exact findingsFrom_keys distinct 1 _

theorem line_of_mem_scan {text : String} {finding : Finding} (found : finding ∈ (scan catalog text).findings) :
    1 ≤ finding.line ∧ finding.line ≤ (lines text).length := by
  rw [scan_eq_scanLines] at found
  obtain ⟨line, place, -⟩ := mem_scanLines.mp found
  obtain ⟨first, here⟩ := List.mem_zipIdx_iff_le_and_getElem?_sub.mp place
  obtain ⟨inside, -⟩ := List.getElem?_eq_some_iff.mp here
  have few := length_scannedLines_le text
  omega

/-- Whatever is left out of the report of a scan, and in whatever order: no rule is reported twice on a line,
the findings stay ordered by severity and line and lie in the text, and those are kept that every call
accepts. -/
theorem narrowed_scan_invariants {definitions : List RuleDefinition} {catalog : Catalog}
    (built : Catalog.build definitions = .ok catalog) (text : String) (calls : List Narrowing) :
    let report := (scan catalog text).narrow calls
    (report.findings.map fun finding => (finding.line, finding.rule.id)).Nodup ∧
    report.findings.Pairwise (fun a b => a.severity.rank < b.severity.rank ∨
      a.severity.rank = b.severity.rank ∧ a.line ≤ b.line) ∧
    report.findings.Sublist (scan catalog text).findings ∧
    (∀ finding ∈ report.findings, 1 ≤ finding.line ∧ finding.line ≤ (lines text).length) ∧
    report.findings = (scan catalog text).findings.filter
      (fun finding => calls.all fun call => call.accepts finding) ∧
    ∀ reordered : List Narrowing, reordered.Perm calls → (scan catalog text).narrow reordered = report := by
  intro report
  have filtered : report = (scan catalog text).filter _ := Report.narrow_eq_filter _ calls
  have sub : report.findings.Sublist (scan catalog text).findings := by
    rw [filtered]
    exact List.filter_sublist
  refine ⟨?_, ?_, sub, ?_, congrArg Report.findings filtered, ?_⟩
  · exact (scan_keys (Catalog.ids_nodup_of_build built) text).sublist (sub.map Finding.key)
  · apply ((scan_ordered catalog text).sublist sub).imp
    intro a b precedes
    exact Finding.precedes_iff.mp precedes
  · intro finding kept
    exact line_of_mem_scan (sub.subset kept)
  · intro reordered same
    rw [filtered, Report.narrow_eq_filter]
    simp only [same.all_eq]

theorem narrowed_scan_invariants_twice :
    let calls : List Narrowing := [.options ⟨false, true⟩, .keep fun finding => finding.line ≤ 1]
    let report := (scan Builtin.catalog "x += now;\ny -= 1;").narrow calls
    Catalog.build Builtin.definitions = .ok Builtin.catalog ∧
      (report.findings.map fun finding => (finding.line, finding.rule.id)).Nodup ∧
      report.findings = (scan Builtin.catalog "x += now;\ny -= 1;").findings.filter
        (fun finding => finding.severity != .informational && finding.line ≤ 1) ∧
      calls.reverse.Perm calls ∧
      (scan Builtin.catalog "x += now;\ny -= 1;").narrow calls.reverse = report := by
  intro calls report
  obtain ⟨once, -, -, -, kept, anyOrder⟩ :=
    narrowed_scan_invariants Builtin.catalog_checked.1 "x += now;\ny -= 1;" calls
  refine ⟨Builtin.catalog_checked.1, once, kept.trans ?_, calls.reverse_perm, anyOrder _ calls.reverse_perm⟩
  refine List.filter_congr fun finding _ => ?_
  simp [calls, Narrowing.accepts]

end ContractScan
