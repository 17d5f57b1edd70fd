import ContractScan.Options
import ContractScan.Proofs.Scan.Order
import Mathlib.Data.List.Flatten
import Mathlib.Data.List.Perm.Subperm

/-! # Scans with some of the rules

Leaving rules out of a catalog has the same effect as leaving their findings out of the report, although the
one happens before the findings are collected and sorted and the other after it. So the findings of a rule
do not depend on the rules around it, and adding rules only puts findings in between.
-/

namespace ContractScan

theorem findingsOn_filter (keep : Rule → Bool) (catalog : Catalog) (number : Nat) (line : String) :
    findingsOn (catalog.filter keep) number line =
      (findingsOn catalog number line).filter fun finding => keep finding.rule := by
  simp [findingsOn, List.filter_map, Function.comp_def, Bool.and_comm]

theorem findingsFrom_filter (keep : Rule → Bool) (catalog : Catalog) (number : Nat) (lines : List String) :
    findingsFrom (catalog.filter keep) number lines =
      (findingsFrom catalog number lines).filter fun finding => keep finding.rule := by
  induction lines generalizing number with
  | nil => rfl
  | cons line lines ih => simp only [findingsFrom, findingsOn_filter, ih, List.filter_append]

theorem scan_filter (keep : Rule → Bool) (catalog : Catalog) (text : String) :
    scan (catalog.filter keep) text = (scan catalog text).filter fun finding => keep finding.rule := by
  have same : (scan (catalog.filter keep) text).findings =
      (scan catalog text).findings.filter fun finding => keep finding.rule := by
    apply eq_of_ofSeverity (scan_ranked _ _)
    · exact (scan_ranked catalog text).filter _
    · intro severity
      simp only [ofSeverity_filter, ofSeverity_scan, findingsFrom_filter]
  exact congrArg Report.mk same

variable {catalog larger : Catalog}

theorem findingsFrom_sublist (sub : catalog.Sublist larger) (number : Nat) (lines : List String) :
    (findingsFrom catalog number lines).Sublist (findingsFrom larger number lines) := by
  induction lines generalizing number with
  | nil => exact .slnil
  | cons line lines ih => exact ((sub.filter _).map _).append (ih (number + 1))

theorem scan_sublist (sub : catalog.Sublist larger) (text : String) :
    (scan catalog text).findings.Sublist (scan larger text).findings := by
  rw [eq_flatMap_ofSeverity (scan_ranked catalog text), eq_flatMap_ofSeverity (scan_ranked larger text)]
  apply List.Sublist.flatMap_right
  intro severity _
  rw [ofSeverity_scan, ofSeverity_scan]
  exact (findingsFrom_sublist sub 1 _).filter _

theorem filter_mem_of_sublist (sub : catalog.Sublist larger) (distinct : larger.Nodup) :
    (larger.filter fun rule => rule ∈ catalog) = catalog := by
  have all : (catalog.filter fun rule => rule ∈ catalog) = catalog := by
    apply List.filter_eq_self.mpr
    simp
  have kept := sub.filter fun rule => rule ∈ catalog
  rw [all] at kept
  have few : (larger.filter fun rule => rule ∈ catalog).Subperm catalog := by
    apply List.subperm_of_subset (distinct.sublist List.filter_sublist)
    intro rule member
    simpa using (List.mem_filter.mp member).2
  exact (kept.eq_of_length_le (List.Subperm.length_le few)).symm

/-- Choosing rules before the scan and choosing their findings after it are the same. So leaving out
informational findings is scanning without the rules for them, and rules that are added to a catalog do not
touch the findings of the others. -/
theorem scan_selected_rules (catalog : Catalog) (text : String) :
    (∀ keep : Rule → Bool, scan (catalog.filter keep) text =
      (scan catalog text).filter fun finding => keep finding.rule) ∧
    (∀ detailed : Bool, analyze catalog ⟨false, detailed⟩ text =
      scan (catalog.filter fun rule => rule.severity != .informational) text) ∧
    ∀ larger : Catalog, catalog.Sublist larger →
      (scan catalog text).findings.Sublist (scan larger text).findings ∧
      (larger.Nodup → (scan larger text).filter (fun finding => finding.rule ∈ catalog) =
        scan catalog text) := by
  refine ⟨?_, ?_, ?_⟩
  · intro keep
    exact scan_filter keep catalog text
  · intro detailed
    exact (scan_filter (fun rule => rule.severity != .informational) catalog text).symm
  · intro larger sub
    refine ⟨scan_sublist sub text, ?_⟩
    intro distinct
    rw [← scan_filter (fun rule => rule ∈ catalog) larger text, filter_mem_of_sublist sub distinct]

theorem scan_selected_rules_with_note :
    let sum : Rule := ⟨"sum", "Sum", "", .high, [.substring ⟨"+=", by decide⟩], ""⟩
    let note : Rule := ⟨"note", "Note", "", .informational, [.substring ⟨"//", by decide⟩], ""⟩
    [sum].Sublist [note, sum] ∧ [note, sum].Nodup ∧
      (scan [sum] "x += 1; // y").findings.Sublist (scan [note, sum] "x += 1; // y").findings ∧
      (scan [note, sum] "x += 1; // y").filter (fun finding => finding.rule ∈ [sum]) =
        scan [sum] "x += 1; // y" := by
  intro sum note
  have sub : [sum].Sublist [note, sum] := .cons note (List.Sublist.refl _)
  have distinct : [note, sum].Nodup := by decide +kernel
  obtain ⟨kept, same⟩ := (scan_selected_rules [sum] "x += 1; // y").2.2 [note, sum] sub
  exact ⟨sub, distinct, kept, same distinct⟩

end ContractScan
