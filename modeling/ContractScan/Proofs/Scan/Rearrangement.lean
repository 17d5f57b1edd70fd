import ContractScan.Proofs.Report.Aggregates
import Mathlib.Data.List.Perm.Basic

/-! # Scans with rearranged catalogs

Rules are tested in the order of the catalog and matchers in the order of their rule. Neither order reaches a report,
except between findings of one severity on one line: which rules fire on a line is the same in any order, and sorting
brings the severities and lines of the findings into the one order they have.
-/

namespace ContractScan

/-! ## Rearranged lists -/

section

variable {α β γ δ : Type} {alike : α → β → Prop} {items : List α} {others : List β}

/-- The members of the one list in some order, each replaced by one that is alike, are the other list. -/
def Rearranged (alike : α → β → Prop) : List α → List β → Prop :=
  Relation.Comp List.Perm (List.Forall₂ alike)

theorem Rearranged.of_perm {reordered : List α} {reordered' : List β} (h : Rearranged alike items others)
    (left : reordered.Perm items) (right : others.Perm reordered') : Rearranged alike reordered reordered' := by
  obtain ⟨middle, perm, all⟩ := h
  have swapped : Relation.Comp List.Perm (List.Forall₂ alike) middle reordered' := by
    rw [← List.forall₂_comp_perm_eq_perm_comp_forall₂]
    exact ⟨others, all, right⟩
  obtain ⟨last, perm', all'⟩ := swapped
  exact ⟨last, (left.trans perm).trans perm', all'⟩

theorem Rearranged.append {items' : List α} {others' : List β} (h : Rearranged alike items others)
    (h' : Rearranged alike items' others') : Rearranged alike (items ++ items') (others ++ others') := by
  obtain ⟨middle, perm, all⟩ := h
  obtain ⟨middle', perm', all'⟩ := h'
  exact ⟨middle ++ middle', perm.append perm', List.rel_append all all'⟩

theorem Rearranged.filter {keep : α → Bool} {keep' : β → Bool} (h : Rearranged alike items others)
    (same : ∀ a b, alike a b → keep a = keep' b) : Rearranged alike (items.filter keep) (others.filter keep') := by
  obtain ⟨middle, perm, all⟩ := h
  refine ⟨middle.filter keep, perm.filter keep, List.rel_filter ?_ all⟩
  intro a b pair
  exact Bool.eq_iff_iff.mp (same a b pair)

theorem Rearranged.map {alike' : γ → δ → Prop} {f : α → γ} {g : β → δ} (h : Rearranged alike items others)
    (carried : ∀ a b, alike a b → alike' (f a) (g b)) : Rearranged alike' (items.map f) (others.map g) := by
  obtain ⟨middle, perm, all⟩ := h
  exact ⟨middle.map f, perm.map f, List.rel_map carried all⟩

/-- What alike members share is the same in both lists, up to the order. -/
theorem Rearranged.perm_map {f : α → γ} {g : β → γ} (h : Rearranged alike items others)
    (same : ∀ a b, alike a b → f a = g b) : (items.map f).Perm (others.map g) := by
  obtain ⟨middle, perm, all⟩ := h.map same
  rw [List.forall₂_eq_eq_eq] at all
  exact all ▸ perm

end

/-! ## Findings of rearranged catalogs -/

/-- The rules are the same, but for the order in which the matchers stand and for how often each of them does. -/
structure Rule.Alike (rule other : Rule) : Prop where
  id : rule.id = other.id
  name : rule.name = other.name
  description : rule.description = other.description
  severity : rule.severity = other.severity
  patterns : ∀ pattern, pattern ∈ rule.patterns ↔ pattern ∈ other.patterns
  suggestion : rule.suggestion = other.suggestion

/-- The findings are on the same line, by rules that are alike. -/
structure Finding.Alike (finding other : Finding) : Prop where
  line : finding.line = other.line
  code : finding.code = other.code
  rule : finding.rule.Alike other.rule

theorem Rule.Alike.detects {rule other : Rule} (h : rule.Alike other) (line : String) :
    rule.detects line = other.detects line := by
  rw [Bool.eq_iff_iff, Rule.detects, Rule.detects, List.any_eq_true, List.any_eq_true]
  simp only [h.patterns]

section

variable {catalog other : Catalog} (rearranged : Rearranged Rule.Alike catalog other)

include rearranged

theorem findingsOn_rearranged (number : Nat) (line : String) :
    Rearranged Finding.Alike (findingsOn catalog number line) (findingsOn other number line) := by
  have fired := rearranged.filter fun _ _ pair => pair.detects line
  exact fired.map fun _ _ pair => ⟨rfl, rfl, pair⟩

theorem findingsFrom_rearranged (number : Nat) (lines : List String) :
    Rearranged Finding.Alike (findingsFrom catalog number lines) (findingsFrom other number lines) := by
  induction lines generalizing number with
  | nil => exact ⟨[], .nil, .nil⟩
  | cons line lines ih => exact (findingsOn_rearranged rearranged number line).append (ih (number + 1))

theorem scanLines_rearranged (lines : List String) :
    Rearranged Finding.Alike (scanLines catalog lines).findings (scanLines other lines).findings :=
  (findingsFrom_rearranged rearranged 1 lines).of_perm (scanLines_perm catalog lines) (scanLines_perm other lines).symm

end

/-! ## Reports that differ in ties only -/

def Finding.sortKey (finding : Finding) : Nat × Nat :=
  (finding.severity.rank, finding.line)

theorem Finding.Alike.severity {finding other : Finding} (h : finding.Alike other) :
    finding.severity = other.severity :=
  h.rule.severity

theorem Finding.Alike.sortKey {finding other : Finding} (h : finding.Alike other) :
    finding.sortKey = other.sortKey := by
  rw [Finding.sortKey, Finding.sortKey, h.severity, h.line]

/-- The reports differ at most in the order of findings that have one severity and one line. -/
structure Report.SameButTies (report other : Report) : Prop where
  keys : report.findings.map Finding.sortKey = other.findings.map Finding.sortKey
  ties (key : Nat × Nat) : Rearranged Finding.Alike
    (report.findings.filter fun finding => finding.sortKey = key)
    (other.findings.filter fun finding => finding.sortKey = key)
  summary : report.summary = other.summary
  isClean : report.isClean = other.isClean
  hasSeverity (level : Severity) : report.hasSeverity level = other.hasSeverity level

theorem map_sortKey_ordered {findings : List Finding} (ordered : findings.Pairwise fun a b => a.precedes b = true) :
    (findings.map Finding.sortKey).Pairwise fun a b => a.1 < b.1 ∨ a.1 = b.1 ∧ a.2 ≤ b.2 :=
  List.pairwise_map.mpr (ordered.imp Finding.precedes_iff.mp)

theorem map_sortKey_eq {findings others : List Finding} (h : Rearranged Finding.Alike findings others)
    (ordered : findings.Pairwise fun a b => a.precedes b = true)
    (ordered' : others.Pairwise fun a b => a.precedes b = true) :
    findings.map Finding.sortKey = others.map Finding.sortKey := by
  -- The order is antisymmetric on keys, though not on findings.
  apply List.Perm.eq_of_pairwise ?_ (map_sortKey_ordered ordered) (map_sortKey_ordered ordered')
  · exact h.perm_map fun _ _ pair => pair.sortKey
  · rintro ⟨rank, line⟩ ⟨rank', line'⟩ - - before after
    dsimp only at before after
    rw [Prod.mk.injEq]
    omega

theorem Summary.ofFindings_eq {findings others : List Finding}
    (same : (findings.map Finding.severity).Perm (others.map Finding.severity)) :
    ofFindings findings = ofFindings others := by
  refine ext_count fun severity => ?_
  have counted := same.countP_eq (· == severity)
  rw [List.countP_map, List.countP_map, List.countP_eq_length_filter, List.countP_eq_length_filter] at counted
  rw [count_ofFindings, count_ofFindings]
  exact congrArg Int.ofNat counted

theorem Report.hasSeverity_eq {report other : Report}
    (same : (report.findings.map Finding.severity).Perm (other.findings.map Finding.severity)) (level : Severity) :
    report.hasSeverity level = other.hasSeverity level := by
  have reached := same.any_eq (f := fun severity => severity.atLeast level)
  rwa [List.any_map, List.any_map] at reached

theorem Report.sameButTies {report other : Report} (h : Rearranged Finding.Alike report.findings other.findings)
    (ordered : report.findings.Pairwise fun a b => a.precedes b = true)
    (ordered' : other.findings.Pairwise fun a b => a.precedes b = true) : report.SameButTies other := by
  have severities := h.perm_map fun _ _ pair => pair.severity
  have levels := hasSeverity_eq severities
  refine ⟨map_sortKey_eq h ordered ordered', ?_, Summary.ofFindings_eq severities, ?_, levels⟩
  · intro key
    exact h.filter fun _ _ pair => by rw [pair.sortKey]
  · rw [Bool.eq_iff_iff, report.isClean_iff, other.isClean_iff, levels]

/-- Catalogs with the same rules in another order, and matchers in another order or more than once, give reports that
differ at most in the order of findings of one severity on one line. -/
theorem order_of_rules_breaks_ties_only {catalog other : Catalog} (rearranged : Rearranged Rule.Alike catalog other) :
    (∀ text, (scan catalog text).SameButTies (scan other text)) ∧
    ∀ lines, (scanLines catalog lines).SameButTies (scanLines other lines) := by
  have same (lines : List String) : (scanLines catalog lines).SameButTies (scanLines other lines) :=
    Report.sameButTies (scanLines_rearranged rearranged lines) (scanLines_ordered catalog lines)
      (scanLines_ordered other lines)
  constructor
  · intro text
    rw [scan_eq_scanLines, scan_eq_scanLines]
    exact same _
  · exact same

/-- Two rules of one severity that fire on one line change places, and a matcher of one of them is repeated. -/
theorem order_of_rules_breaks_ties_only_swapped :
    let plus : Matcher := .substring ⟨"+=", by decide⟩
    let minus : Matcher := .substring ⟨"-=", by decide⟩
    let note : Rule := ⟨"note", "Note", "", .high, [.substring ⟨"//", by decide⟩], ""⟩
    let sum : Rule := ⟨"sum", "Sum", "", .high, [plus, minus], ""⟩
    let repeated : Rule := { sum with patterns := [minus, plus, minus] }
    Rearranged Rule.Alike [sum, note] [note, repeated] ∧
      (scan [sum, note] "x += 1; // y").SameButTies (scan [note, repeated] "x += 1; // y") ∧
      (scan [sum, note] "x += 1; // y").findings.map (·.rule.id) = ["sum", "note"] ∧
      (scan [note, repeated] "x += 1; // y").findings.map (·.rule.id) = ["note", "sum"] := by
  intro plus minus note sum repeated
  have alike : sum.Alike repeated := ⟨rfl, rfl, rfl, rfl, by simp [sum, repeated], rfl⟩
  have rearranged : Rearranged Rule.Alike [sum, note] [note, repeated] :=
    ⟨[note, sum], .swap note sum [], .cons ⟨rfl, rfl, rfl, rfl, fun _ => Iff.rfl, rfl⟩ (.cons alike .nil)⟩
  have found : findingsFrom [sum, note] 1 (scannedLines "x += 1; // y") =
    [⟨1, "x += 1; // y", sum⟩, ⟨1, "x += 1; // y", note⟩] := by decide +kernel
  have found' : findingsFrom [note, repeated] 1 (scannedLines "x += 1; // y") =
    [⟨1, "x += 1; // y", note⟩, ⟨1, "x += 1; // y", repeated⟩] := by decide +kernel
  refine ⟨rearranged, (order_of_rules_breaks_ties_only rearranged).1 _, ?_, ?_⟩
  · rw [scan_eq_scanLines, scanLines, found, List.mergeSort_of_pairwise (by decide)]
    rfl
  · rw [scan_eq_scanLines, scanLines, found', List.mergeSort_of_pairwise (by decide)]
    rfl

end ContractScan
