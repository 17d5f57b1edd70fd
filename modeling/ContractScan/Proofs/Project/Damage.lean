import ContractScan.Proofs.EntryPoints
import ContractScan.Proofs.Scan.Composition
import ContractScan.Proofs.Scan.Narrowing
import ContractScan.Proofs.Text.Undecodable

/-! # Damaged files

Bytes that are not UTF-8 are replaced where they stand. As reading can be cut at line feeds, and scanning at
lines, the report on a file is put together from the reports on its pieces, whatever bytes these hold. So damage
to one line shows on that line only: elsewhere no finding is lost, added or moved.
-/

namespace ContractScan

open Text Utf8

/-- The findings that are not on a line, in the order in which they stand. -/
def offLine (number : Nat) (findings : List Finding) : List Finding :=
  findings.filter fun finding => finding.line ≠ number

theorem offLine_append (number : Nat) (findings others : List Finding) :
    offLine number (findings ++ others) = offLine number findings ++ offLine number others := by
  simp [offLine]

theorem offLine_eq_self {number : Nat} {findings : List Finding} (h : ∀ finding ∈ findings, finding.line ≠ number) :
    offLine number findings = findings := by
  apply List.filter_eq_self.mpr
  simpa using h

theorem offLine_eq_nil {number : Nat} {findings : List Finding} (h : ∀ finding ∈ findings, finding.line = number) :
    offLine number findings = [] := by
  apply List.filter_eq_nil_iff.mpr
  simpa using h

theorem offLine_shift (count number : Nat) (findings : List Finding) :
    offLine (count + number) (findings.map (Finding.shift count)) =
      (offLine number findings).map (Finding.shift count) := by
  simp [offLine, List.filter_map, Function.comp_def, Finding.shift, Nat.add_comm count]

theorem offLine_of_outside (catalog : Catalog) (severity : Severity) {number : Nat} {text : String}
    (outside : number = 0 ∨ (lines text).length < number) :
    offLine number (ofSeverity severity (scan catalog text).findings) =
      ofSeverity severity (scan catalog text).findings := by
  apply offLine_eq_self
  intro finding found
  have inside := line_of_mem_scan (mem_ofSeverity.mp found).1
  omega

section

variable {catalog : Catalog} (silent : catalog.SilentOnBlanks)

include silent

/-- What is found outside of a line depends on what stands above and below it only. -/
theorem offLine_scan (severity : Severity) (text after : String) {line : String} (single : '\n' ∉ line.toList) :
    offLine ((lines text).length + 1)
        (ofSeverity severity (scan catalog (text ++ "\n" ++ (line ++ "\n" ++ after))).findings) =
      ofSeverity severity (scan catalog text).findings ++
        ((ofSeverity severity (scan catalog after).findings).map (Finding.shift 1)).map
          (Finding.shift (lines text).length) := by
  have inLine : (lines line).length = 1 := by simp [lines_of_not_mem single]
  have here : offLine 1 (ofSeverity severity (scan catalog line).findings) = [] := by
    apply offLine_eq_nil
    intro finding found
    have inside := line_of_mem_scan (mem_ofSeverity.mp found).1
    omega
  rw [ofSeverity_scan_append silent, ofSeverity_scan_append silent, ← length_lines, ← length_lines, inLine,
    offLine_append, offLine_of_outside catalog severity (.inr (Nat.lt_succ_self _)), offLine_shift, offLine_append,
    here, List.nil_append, offLine_shift 1 0, offLine_of_outside catalog severity (.inl rfl)]

theorem offLine_scan_eq (text after : String) {line other : String} (single : '\n' ∉ line.toList)
    (single' : '\n' ∉ other.toList) :
    offLine ((lines text).length + 1) (scan catalog (text ++ "\n" ++ (line ++ "\n" ++ after))).findings =
      offLine ((lines text).length + 1) (scan catalog (text ++ "\n" ++ (other ++ "\n" ++ after))).findings := by
  apply eq_of_ofSeverity
  · exact (scan_ranked _ _).filter _
  · exact (scan_ranked _ _).filter _
  · intro severity
    have first := offLine_scan silent severity text after single
    have second := offLine_scan silent severity text after single'
    simp only [offLine, ofSeverity_filter] at *
    rw [first, second]

end

/-- How many lines the bytes make when a line feed follows them. -/
def lineCount (bytes : List UInt8) : Nat :=
  (readText (bytes ++ [0x0A])).toList.count '\n'

theorem lineCount_eq {bytes : List UInt8} {text : String} (h : readText (bytes ++ [0x0A]) = text ++ "\n") :
    lineCount bytes = (lines text).length := by
  simp [lineCount, h, length_lines, Nat.add_comm]

/-- The text above a line feed tells the same findings as the bytes above it, and has their lines. -/
theorem exists_scan_above_feed (before : List UInt8) : ∃ text,
    (∀ after, readText (before ++ [0x0A] ++ after) = text ++ "\n" ++ readText after) ∧
      lineCount before = (lines text).length ∧
      scan Builtin.catalog (readText before) = scan Builtin.catalog text := by
  obtain ⟨text, cut, same⟩ := exists_text_above_feed before
  refine ⟨text, cut, ?_, ?_⟩
  · apply lineCount_eq
    simpa [readText_nil] using cut []
  · rcases same with same | same
    · rw [same]
    · have blank : scan Builtin.catalog (text ++ "\n" ++ "") = scan Builtin.catalog text :=
        scan_append_blank Builtin.catalog_silentOnBlanks (by decide) text
      rw [same, ← blank, String.append_empty]

theorem scan_readText_feed (severity : Severity) (before after : List UInt8) :
    ofSeverity severity (scan Builtin.catalog (readText (before ++ [0x0A] ++ after))).findings =
      ofSeverity severity (scan Builtin.catalog (readText before)).findings ++
        (ofSeverity severity (scan Builtin.catalog (readText after)).findings).map
          (Finding.shift (lineCount before)) := by
  obtain ⟨text, cut, count, same⟩ := exists_scan_above_feed before
  rw [cut, same, count, length_lines, ofSeverity_scan_append Builtin.catalog_silentOnBlanks]

/-- The bytes have no line end among them. -/
structure InLine (line : List UInt8) : Prop where
  noFeed : 0x0A ∉ line
  noReturn : 0x0D ∉ line

theorem InLine.readText_feed {line : List UInt8} (inLine : InLine line) (after : List UInt8) :
    readText (line ++ [0x0A] ++ after) = readText line ++ "\n" ++ readText after := by
  apply readText_append_feed
  intro last
  exact inLine.noReturn (List.mem_of_getLast? last)

theorem offLine_scan_readText (before after : List UInt8) {line other : List UInt8} (inLine : InLine line)
    (inLine' : InLine other) :
    offLine (lineCount before + 1)
        (scan Builtin.catalog (readText (before ++ [0x0A] ++ (line ++ [0x0A] ++ after)))).findings =
      offLine (lineCount before + 1)
        (scan Builtin.catalog (readText (before ++ [0x0A] ++ (other ++ [0x0A] ++ after)))).findings := by
  obtain ⟨text, cut, count, -⟩ := exists_scan_above_feed before
  rw [cut, cut, count, inLine.readText_feed, inLine'.readText_feed]
  apply offLine_scan_eq Builtin.catalog_silentOnBlanks
  · exact not_mem_readText inLine.noFeed inLine.noReturn
  · exact not_mem_readText inLine'.noFeed inLine'.noReturn

/-- Undecodable bytes stay where they are: the text of a file can be cut at every ASCII byte, its report at every
line feed, and what one line holds shows on that line only. -/
theorem undecodable_bytes_confined :
    (∀ (files : FileSystem) (path : Path) (bytes : List UInt8), files.root.openPath path = .ok (.file bytes) →
      files.root.readSource path = .ok (readText bytes) ∧
      files.scanTarget Builtin.catalog path =
        ⟨[⟨path.toString, scan Builtin.catalog (readText bytes)⟩], 1⟩) ∧
    ∀ before after : List UInt8,
      (∀ c : UInt8, c < 0x80 → c ≠ 0x0A → c ≠ 0x0D → readText (before ++ [c] ++ after) =
        readText before ++ String.singleton (Char.ofNat c.toNat) ++ readText after) ∧
      (before.getLast? ≠ some 0x0D →
        readText (before ++ [0x0A] ++ after) = readText before ++ "\n" ++ readText after ∧
        lineCount before = (lines (readText before)).length) ∧
      (∀ severity, ofSeverity severity (scan Builtin.catalog (readText (before ++ [0x0A] ++ after))).findings =
        ofSeverity severity (scan Builtin.catalog (readText before)).findings ++
          (ofSeverity severity (scan Builtin.catalog (readText after)).findings).map
            (Finding.shift (lineCount before))) ∧
      ∀ line other : List UInt8, InLine line → InLine other →
        offLine (lineCount before + 1)
            (scan Builtin.catalog (readText (before ++ [0x0A] ++ (line ++ [0x0A] ++ after)))).findings =
          offLine (lineCount before + 1)
            (scan Builtin.catalog (readText (before ++ [0x0A] ++ (other ++ [0x0A] ++ after)))).findings := by
  refine ⟨?_, ?_⟩
  · intro files path bytes held
    refine ⟨?_, FileSystem.scanTarget_file held Builtin.catalog⟩
    rw [Entry.readSource, held]
    rfl
  · intro before after
    refine ⟨?_, ?_, ?_, ?_⟩
    · intro c ascii notFeed notReturn
      exact readText_append_ascii before after ascii notReturn fun _ => notFeed
    · intro final
      refine ⟨readText_append_feed final after, lineCount_eq ?_⟩
      simpa [readText_nil] using readText_append_feed final []
    · intro severity
      exact scan_readText_feed severity before after
    · intro line other inLine inLine'
      exact offLine_scan_readText before after inLine inLine'

theorem undecodable_bytes_confined_truncated :
    let before : List UInt8 := [0x6E, 0x6F, 0x77, 0xE2, 0x82]
    let after : List UInt8 := [0xED, 0xA0, 0x80, 0x6E, 0x6F, 0x77]
    let files : FileSystem := ⟨.directory [("a.sol", .file before)], []⟩
    readText before = "now\uFFFD" ∧
    files.root.openPath ["a.sol"] = .ok (.file before) ∧
    files.root.readSource ["a.sol"] = .ok (readText before) ∧
    readText (before ++ [0x3B] ++ after) = readText before ++ ";" ++ readText after ∧
    before.getLast? ≠ some 0x0D ∧
    readText (before ++ [0x0A] ++ after) = readText before ++ "\n" ++ readText after ∧
    InLine [0xC0, 0x80] ∧ InLine [] ∧
    offLine (lineCount before + 1)
        (scan Builtin.catalog (readText (before ++ [0x0A] ++ ([0xC0, 0x80] ++ [0x0A] ++ after)))).findings =
      offLine (lineCount before + 1)
        (scan Builtin.catalog (readText (before ++ [0x0A] ++ ([] ++ [0x0A] ++ after)))).findings := by
  intro before after files
  have held : files.root.openPath ["a.sol"] = .ok (.file before) := by rfl
  have final : before.getLast? ≠ some 0x0D := by decide
  have broken : InLine [0xC0, 0x80] := ⟨by decide, by decide⟩
  have empty : InLine [] := ⟨by decide, by decide⟩
  obtain ⟨read, cut⟩ := undecodable_bytes_confined
  obtain ⟨atChar, atFeed, -, elsewhere⟩ := cut before after
  exact ⟨by decide +kernel, held, (read files ["a.sol"] before held).1,
    atChar 0x3B (by decide) (by decide) (by decide), final, (atFeed final).1, broken, empty,
    elsewhere _ _ broken empty⟩

end ContractScan
