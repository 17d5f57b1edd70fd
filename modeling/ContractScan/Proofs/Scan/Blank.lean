import ContractScan.Proofs.Scan.Margins

/-! # Scans of blank texts

A blank text is reported as clean without a look at its lines. This cannot be told from a scan of the lines
exactly when no rule detects anything on a blank line. A rule that ignores margins sees a blank line as the
empty one, so for such rules it is enough to test the empty line; the built-in rules pass this test.
-/

namespace ContractScan

open Text

/-- No rule detects anything on a blank line. Lines of a text hold no line feed. -/
def Catalog.SilentOnBlanks (catalog : Catalog) : Prop :=
  ∀ line : String, IsMargin line.toList → ∀ rule ∈ catalog, rule.detects line = false

variable {catalog : Catalog}

theorem scan_blank {text : String} (blank : isAllBlank text = true) : scan catalog text = .empty :=
  if_pos blank

theorem findingsOn_eq_nil {number : Nat} {line : String} :
    findingsOn catalog number line = [] ↔ ∀ rule ∈ catalog, rule.detects line = false := by
  simp [findingsOn]

theorem findingsFrom_of_scanLines_eq_empty {lines : List String} (clean : scanLines catalog lines = .empty) :
    findingsFrom catalog 1 lines = [] := by
  have same := scanLines_perm catalog lines
  rw [clean] at same
  exact List.nil_perm.mp same

theorem isMargin_of_mem_lines {text line : String} (blank : isAllBlank text = true)
    (member : line ∈ lines text) : IsMargin line.toList := by
  refine ⟨?_, not_mem_of_mem_lines member⟩
  obtain ⟨piece, cut, rfl⟩ := List.mem_map.mp member
  simpa using allBlank_iff_splitOn.mp (isAllBlank_iff.mp blank) piece cut

theorem Catalog.SilentOnBlanks.findingsFrom_eq_nil (silent : catalog.SilentOnBlanks) (number : Nat)
    {lines : List String} (blank : ∀ line ∈ lines, IsMargin line.toList) :
    findingsFrom catalog number lines = [] := by
  induction lines generalizing number with
  | nil => rfl
  | cons line lines ih =>
      obtain ⟨first, others⟩ := List.forall_mem_cons.mp blank
      simp [findingsFrom, findingsOn_eq_nil.mpr (silent line first), ih (number + 1) others]

theorem Catalog.SilentOnBlanks.findingsFrom_scannedLines (silent : catalog.SilentOnBlanks) (number : Nat)
    (text : String) :
    findingsFrom catalog number (scannedLines text) = findingsFrom catalog number (lines text) := by
  rw [scannedLines]
  split
  · rename_i blank
    rw [silent.findingsFrom_eq_nil number fun line => isMargin_of_mem_lines blank]
    rfl
  · rfl

/-- The look at the whole text changes nothing exactly if blank lines never show anything. -/
theorem scan_eq_scanLines_iff :
    (∀ text, scan catalog text = scanLines catalog (lines text)) ↔ catalog.SilentOnBlanks := by
  constructor
  · intro same line blank
    have clean := same line
    rw [scan_blank (isAllBlank_iff.mpr blank.blank), lines_of_not_mem blank.inLine] at clean
    apply findingsOn_eq_nil.mp
    simpa [findingsFrom] using findingsFrom_of_scanLines_eq_empty clean.symm
  · intro silent text
    rw [scan_eq_scanLines, scanLines, silent.findingsFrom_scannedLines, ← scanLines]

theorem detects_blank (ignores : catalog.ignoresMargins = true) (silent : catalog.silentOnEmpty = true)
    {line : String} (blank : isAllBlank line = true) {rule : Rule} (listed : rule ∈ catalog) :
    rule.detects line = false := by
  have empty : trimmed line = "" := by
    simp [trimmed, trim_eq_nil.mpr (isAllBlank_iff.mp blank)]
  rw [← Rule.detects_trimmed (List.all_eq_true.mp ignores rule listed), empty]
  simpa using List.all_eq_true.mp silent rule listed

theorem Builtin.catalog_silentOnBlanks : Builtin.catalog.SilentOnBlanks := by
  intro line blank rule listed
  exact detects_blank catalog_checked.2.1 catalog_checked.2.2 (isAllBlank_iff.mpr blank.blank) listed

/-- With the built-in catalog a text is scanned line by line, blank or not: no built-in rule detects anything
on a line of blanks. For catalogs in general the one is the same as the other. -/
theorem builtin_scan_eq_scanLines :
    (∀ text, scan Builtin.catalog text = scanLines Builtin.catalog (lines text)) ∧
    (∀ line, isAllBlank line = true → ∀ rule ∈ Builtin.catalog, rule.detects line = false) ∧
    ∀ catalog : Catalog, (∀ text, scan catalog text = scanLines catalog (lines text)) ↔
      ∀ line, isAllBlank line = true → '\n' ∉ line.toList → ∀ rule ∈ catalog, rule.detects line = false := by
  refine ⟨scan_eq_scanLines_iff.mpr Builtin.catalog_silentOnBlanks, ?_, ?_⟩
  · intro line blank rule listed
    exact detects_blank Builtin.catalog_checked.2.1 Builtin.catalog_checked.2.2 blank listed
  · intro catalog
    rw [scan_eq_scanLines_iff]
    apply forall_congr'
    intro line
    rw [isAllBlank_iff]
    exact ⟨fun silent blank inLine => silent ⟨blank, inLine⟩,
      fun silent margin => silent margin.blank margin.inLine⟩

theorem builtin_scan_eq_scanLines_spaces :
    isAllBlank "\u3000\t\u00a0\u0085\n\u2029" = true ∧
      ∀ rule ∈ Builtin.catalog, rule.detects "\u3000\t\u00a0\u0085\n\u2029" = false := by
  have blank : isAllBlank "\u3000\t\u00a0\u0085\n\u2029" = true := by decide +kernel
  exact ⟨blank, builtin_scan_eq_scanLines.2.1 _ blank⟩

end ContractScan
