import ContractScan.Scan
import ContractScan.Proofs.Text.Trim
import Mathlib.Data.List.Basic

/-! # The order of findings

Findings are collected line by line and then sorted. Within one severity the collected findings stand in
order of their lines already, so a stable sort leaves each severity as it was collected and only moves the
severities apart. A report is therefore the enumeration by severity, then line, then place in the catalog.
-/

namespace ContractScan

open Text

namespace Finding

theorem precedes_iff {a b : Finding} : a.precedes b = true ↔
    a.severity.rank < b.severity.rank ∨ a.severity.rank = b.severity.rank ∧ a.line ≤ b.line := by
  simp [precedes]

theorem precedes_trans (a b c : Finding) (hab : a.precedes b = true) (hbc : b.precedes c = true) :
    a.precedes c = true := by
  rw [precedes_iff] at hab hbc ⊢
  omega

theorem precedes_total (a b : Finding) : (a.precedes b || b.precedes a) = true := by
  rw [Bool.or_eq_true, precedes_iff, precedes_iff]
  omega

/-- The order of severities alone. -/
theorem rank_le_of_precedes {a b : Finding} (h : a.precedes b = true) :
    a.severity.rank ≤ b.severity.rank := by
  rw [precedes_iff] at h
  omega

end Finding

/-- The findings of one severity, in the order in which they stand. -/
def ofSeverity (severity : Severity) (findings : List Finding) : List Finding :=
  findings.filter fun finding => finding.severity = severity

theorem mem_ofSeverity {severity : Severity} {findings : List Finding} {finding : Finding} :
    finding ∈ ofSeverity severity findings ↔ finding ∈ findings ∧ finding.severity = severity := by
  simp [ofSeverity]

theorem ofSeverity_flatMap {α : Type} (severity : Severity) (f : α → List Finding) (items : List α) :
    ofSeverity severity (items.flatMap f) = items.flatMap fun item => ofSeverity severity (f item) := by
  simp only [ofSeverity, List.filter_flatMap]

theorem ofSeverity_filter (severity : Severity) (test : Finding → Bool) (findings : List Finding) :
    ofSeverity severity (findings.filter test) = (ofSeverity severity findings).filter test := by
  simp [ofSeverity, Bool.and_comm]

theorem ofSeverity_cons_of_eq {finding : Finding} {severity : Severity}
    (h : finding.severity = severity) (findings : List Finding) :
    ofSeverity severity (finding :: findings) = finding :: ofSeverity severity findings := by
  simp [ofSeverity, h]

theorem ofSeverity_cons_of_ne {finding : Finding} {severity : Severity}
    (h : finding.severity ≠ severity) (findings : List Finding) :
    ofSeverity severity (finding :: findings) = ofSeverity severity findings := by
  simp [ofSeverity, h]

/-- No finding is more urgent than the first one of an ordered list. -/
theorem ofSeverity_eq_nil_of_rank_lt {severity : Severity} {least : Nat} {findings : List Finding}
    (h : ∀ finding ∈ findings, least ≤ finding.severity.rank) (more : severity.rank < least) :
    ofSeverity severity findings = [] := by
  refine List.filter_eq_nil_iff.mpr fun finding member same => ?_
  have bound := h finding member
  rw [of_decide_eq_true same] at bound
  omega

theorem Severity.all_split (severity : Severity) : ∃ before after,
    Severity.all = before ++ severity :: after ∧
      (∀ other ∈ before, other.rank < severity.rank) ∧ ∀ other ∈ after, other ≠ severity := by
  cases severity with
  | critical => exact ⟨[], [.high, .medium, .low, .informational], by decide⟩
  | high => exact ⟨[.critical], [.medium, .low, .informational], by decide⟩
  | medium => exact ⟨[.critical, .high], [.low, .informational], by decide⟩
  | low => exact ⟨[.critical, .high, .medium], [.informational], by decide⟩
  | informational => exact ⟨[.critical, .high, .medium, .low], [], by decide⟩

/-- A list ordered by severity is made of its severities, one after the other. -/
theorem eq_flatMap_ofSeverity {findings : List Finding}
    (ordered : findings.Pairwise fun a b => a.severity.rank ≤ b.severity.rank) :
    findings = Severity.all.flatMap fun severity => ofSeverity severity findings := by
  induction findings with
  | nil => rfl
  | cons first others ih =>
      obtain ⟨above, rest⟩ := List.pairwise_cons.mp ordered
      -- More urgent severities are empty, and the first finding is the first of its own severity.
      obtain ⟨before, after, all, less, different⟩ := Severity.all_split first.severity
      have none : before.flatMap (fun severity => ofSeverity severity (first :: others)) = [] := by
        refine List.flatMap_eq_nil_iff.mpr fun severity member => ?_
        refine ofSeverity_eq_nil_of_rank_lt ?_ (less severity member)
        exact List.forall_mem_cons.mpr ⟨Nat.le_refl _, above⟩
      have noneOthers : before.flatMap (fun severity => ofSeverity severity others) = [] :=
        List.flatMap_eq_nil_iff.mpr fun severity member =>
          ofSeverity_eq_nil_of_rank_lt above (less severity member)
      have same : after.flatMap (fun severity => ofSeverity severity (first :: others)) =
          after.flatMap fun severity => ofSeverity severity others :=
        List.flatMap_congr fun severity member =>
          ofSeverity_cons_of_ne (different severity member).symm others
      have split := ih rest
      rw [all, List.flatMap_append, List.flatMap_cons, noneOthers, List.nil_append] at split
      rw [all, List.flatMap_append, List.flatMap_cons, none, List.nil_append, same,
        ofSeverity_cons_of_eq rfl, List.cons_append, ← split]

/-- Two lists that are ordered by severity are the same if they hold the same of each severity. -/
theorem eq_of_ofSeverity {findings others : List Finding}
    (ordered : findings.Pairwise fun a b => a.severity.rank ≤ b.severity.rank)
    (ordered' : others.Pairwise fun a b => a.severity.rank ≤ b.severity.rank)
    (same : ∀ severity, ofSeverity severity findings = ofSeverity severity others) : findings = others := by
  rw [eq_flatMap_ofSeverity ordered, eq_flatMap_ofSeverity ordered']
  simp only [same]

theorem mem_findingsOn {catalog : Catalog} {number : Nat} {line : String} {finding : Finding} :
    finding ∈ findingsOn catalog number line ↔ finding.line = number ∧ finding.code = trimmed line ∧
      finding.rule ∈ catalog ∧ finding.rule.detects line = true := by
  rw [findingsOn, List.mem_map]
  constructor
  · rintro ⟨rule, kept, rfl⟩
    exact ⟨rfl, rfl, List.mem_filter.mp kept⟩
  · rintro ⟨rfl, code, kept⟩
    exact ⟨finding.rule, List.mem_filter.mpr kept, by rw [← code]⟩

theorem findingsFrom_eq_flatMap (catalog : Catalog) (number : Nat) (lines : List String) :
    findingsFrom catalog number lines =
      (lines.zipIdx number).flatMap fun entry => findingsOn catalog entry.2 entry.1 := by
  induction lines generalizing number with
  | nil => rfl
  | cons line lines ih =>
      rw [findingsFrom, ih, List.zipIdx_cons, List.flatMap_cons]

theorem le_line_of_mem_findingsFrom {catalog : Catalog} {number : Nat} {lines : List String}
    {finding : Finding} (h : finding ∈ findingsFrom catalog number lines) : number ≤ finding.line := by
  rw [findingsFrom_eq_flatMap] at h
  obtain ⟨⟨line, place⟩, member, found⟩ := List.mem_flatMap.mp h
  have bound := List.le_snd_of_mem_zipIdx member
  rw [(mem_findingsOn.mp found).1]
  exact bound

theorem findingsFrom_lines (catalog : Catalog) (number : Nat) (lines : List String) :
    (findingsFrom catalog number lines).Pairwise fun a b => a.line ≤ b.line := by
  induction lines generalizing number with
  | nil => exact .nil
  | cons line lines ih =>
      refine List.pairwise_append.mpr ⟨?_, ih (number + 1), ?_⟩
      · refine List.pairwise_map.mpr (List.pairwise_of_forall fun _ _ => ?_)
        exact Nat.le_refl number
      · intro a ha b hb
        have later := le_line_of_mem_findingsFrom hb
        rw [(mem_findingsOn.mp ha).1]
        omega

theorem scanLines_ordered (catalog : Catalog) (lines : List String) :
    (scanLines catalog lines).findings.Pairwise fun a b => a.precedes b = true :=
  List.pairwise_mergeSort Finding.precedes_trans Finding.precedes_total _

theorem scanLines_perm (catalog : Catalog) (lines : List String) :
    (scanLines catalog lines).findings.Perm (findingsFrom catalog 1 lines) :=
  List.mergeSort_perm _ _

/-- Sorting moves nothing within a severity. -/
theorem ofSeverity_scanLines (catalog : Catalog) (lines : List String) (severity : Severity) :
    ofSeverity severity (scanLines catalog lines).findings =
      ofSeverity severity (findingsFrom catalog 1 lines) := by
  have ordered : (ofSeverity severity (findingsFrom catalog 1 lines)).Pairwise
      fun a b => a.precedes b = true := by
    refine ((findingsFrom_lines catalog 1 lines).filter _).imp_of_mem ?_
    intro a b ha hb le
    rw [Finding.precedes_iff, (mem_ofSeverity.mp ha).2, (mem_ofSeverity.mp hb).2]
    exact .inr ⟨rfl, le⟩
  have sub : (ofSeverity severity (findingsFrom catalog 1 lines)).Sublist
      (scanLines catalog lines).findings :=
    List.sublist_mergeSort Finding.precedes_trans Finding.precedes_total ordered List.filter_sublist
  -- A sublist of one severity that has as many findings as there are of it is all of them.
  have kept := sub.filter fun finding : Finding => decide (finding.severity = severity)
  have once : (ofSeverity severity (findingsFrom catalog 1 lines)).filter
      (fun finding => decide (finding.severity = severity)) =
        ofSeverity severity (findingsFrom catalog 1 lines) := by
    simp [ofSeverity]
  rw [once] at kept
  exact (kept.eq_of_length ((scanLines_perm catalog lines).filter _).length_eq.symm).symm

/-- The lines that a scan of a text looks at: none of a blank text. -/
def scannedLines (text : String) : List String :=
  if isAllBlank text then [] else lines text

theorem scan_eq_scanLines (catalog : Catalog) (text : String) :
    scan catalog text = scanLines catalog (scannedLines text) := by
  rw [scan, scannedLines]
  split
  · simp [scanLines, findingsFrom, Report.empty]
  · rfl

theorem length_scannedLines_le (text : String) : (scannedLines text).length ≤ (lines text).length := by
  rw [scannedLines]
  split <;> simp

theorem scan_ordered (catalog : Catalog) (text : String) :
    (scan catalog text).findings.Pairwise fun a b => a.precedes b = true := by
  rw [scan_eq_scanLines]
  exact scanLines_ordered catalog _

theorem scan_ranked (catalog : Catalog) (text : String) :
    (scan catalog text).findings.Pairwise fun a b => a.severity.rank ≤ b.severity.rank :=
  (scan_ordered catalog text).imp Finding.rank_le_of_precedes

theorem ofSeverity_scan (catalog : Catalog) (text : String) (severity : Severity) :
    ofSeverity severity (scan catalog text).findings =
      ofSeverity severity (findingsFrom catalog 1 (scannedLines text)) := by
  rw [scan_eq_scanLines, ofSeverity_scanLines]

theorem mem_scanLines {catalog : Catalog} {lines : List String} {finding : Finding} :
    finding ∈ (scanLines catalog lines).findings ↔
      ∃ line, (line, finding.line) ∈ lines.zipIdx 1 ∧ finding ∈ findingsOn catalog finding.line line := by
  rw [(scanLines_perm catalog lines).mem_iff, findingsFrom_eq_flatMap, List.mem_flatMap]
  constructor
  · rintro ⟨⟨line, number⟩, member, found⟩
    have same := (mem_findingsOn.mp found).1
    exact ⟨line, same ▸ member, same ▸ found⟩
  · rintro ⟨line, member, found⟩
    exact ⟨(line, finding.line), member, found⟩

/-- Every finding that there should be: severity by severity, line by line, in the order of the catalog, one
for each rule of which some matcher detects something on the line. -/
def expectedFindings (catalog : Catalog) (lines : List String) : List Finding :=
  Severity.all.flatMap fun severity =>
    (lines.zipIdx 1).flatMap fun (line, number) =>
      (catalog.filter fun rule => rule.severity = severity ∧
        ∃ pattern ∈ rule.patterns, pattern.detects line = true).map
          fun rule => ⟨number, trimmed line, rule⟩

theorem ofSeverity_findingsOn (catalog : Catalog) (number : Nat) (line : String) (severity : Severity) :
    ofSeverity severity (findingsOn catalog number line) =
      (catalog.filter fun rule => rule.severity = severity ∧
        ∃ pattern ∈ rule.patterns, pattern.detects line = true).map
          fun rule => ⟨number, trimmed line, rule⟩ := by
  rw [ofSeverity, findingsOn, List.filter_map, List.filter_filter]
  congr 1
  refine List.filter_congr fun rule _ => ?_
  rw [Bool.eq_iff_iff]
  simp only [Function.comp_apply, Rule.detects, List.any_eq_true, Bool.and_eq_true, decide_eq_true_eq]
  exact Iff.rfl

/-- The findings are exactly the expected ones in their order, and the code of each is its line without the
blanks around it. -/
theorem scanLines_enumerated (catalog : Catalog) (lines : List String) :
    (scanLines catalog lines).findings = expectedFindings catalog lines ∧
    ∀ finding ∈ (scanLines catalog lines).findings, ∃ line u v,
      1 ≤ finding.line ∧ lines[finding.line - 1]? = some line ∧
      line.toList = u ++ finding.code.toList ++ v ∧ AllBlank u ∧ AllBlank v ∧
      IsTrimmed finding.code.toList := by
  constructor
  · have ranks := (scanLines_ordered catalog lines).imp Finding.rank_le_of_precedes
    rw [eq_flatMap_ofSeverity ranks, expectedFindings]
    simp only [ofSeverity_scanLines, findingsFrom_eq_flatMap, ofSeverity_flatMap, ofSeverity_findingsOn]
  · intro finding member
    obtain ⟨line, place, found⟩ := mem_scanLines.mp member
    obtain ⟨first, here⟩ := List.mem_zipIdx_iff_le_and_getElem?_sub.mp place
    obtain ⟨u, v, split, hu, hv⟩ := trim_margins line.toList
    refine ⟨line, u, v, first, here, ?_, hu, hv, ?_⟩ <;>
      rw [(mem_findingsOn.mp found).2.1, toList_trimmed]
    · exact split
    · exact isTrimmed_trim line.toList

end ContractScan
