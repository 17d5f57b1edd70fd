import ContractScan.CommandLine.Run
import ContractScan.Proofs.Scan.Margins
import ContractScan.Proofs.Text.Utf8
import ContractScan.Request

/-! # The ways to a report

A text can be sent in a request, written to standard input or kept in a file. A request is scanned as it
comes; the other two are decoded and get uniform line ends first. Where no carriage return stands alone this
only takes blanks from the ends of lines, so all three ways tell the same findings and the same summary.
-/

namespace ContractScan

open Text

theorem scan_unifyLineEnds {text : String} (paired : ReturnsPaired text.toList) :
    scan Builtin.catalog (String.ofList (unifyLineEnds text.toList)) = scan Builtin.catalog text :=
  scan_eq_of_trimmed Builtin.catalog_ignoresMargins (map_trimmed_unifyLineEnds paired)

/-- A detailed response tells a report as the report tells itself. -/
theorem Request.respond_toJson (catalog : Catalog) (text : String) :
    (Request.respond catalog ⟨text, .default⟩).toJson = .object (scan catalog text).toJson := by
  have entries : ((scan catalog text).findings.map fun finding => ResponseEntry.mk finding true).map
      ResponseEntry.toJson = (scan catalog text).findings.map Finding.toJson := by
    rw [List.map_map]
    rfl
  rw [Report.toJson, ← entries]
  rfl

theorem handleRequest_code (catalog : Catalog) (text : String) :
    handleRequest catalog (.object [("code", .string text)]) =
      .ok (Request.respond catalog ⟨text, .default⟩) :=
  rfl

theorem FileSystem.scanTarget_file {files : FileSystem} {path : Path} {bytes : List UInt8}
    (held : files.root.openPath path = .ok (.file bytes)) (catalog : Catalog) :
    files.scanTarget catalog path = ⟨[⟨path.toString, scan catalog (Utf8.readText bytes)⟩], 1⟩ := by
  have isFile : files.root.leadsToFile path = true := by
    rw [Entry.leadsToFile, held]
  have read : files.root.readSource path = .ok (Utf8.readText bytes) := by
    rw [Entry.readSource, held]
    rfl
  have report : files.scanFile? catalog path = some ⟨path.toString, scan catalog (Utf8.readText bytes)⟩ := by
    rw [scanFile?, read]
    rfl
  rw [scanTarget, sources, if_pos isFile, List.foldl_cons, List.foldl_nil, scanNext, report]
  rfl

namespace CommandLine

theorem ofWords_scan_stdin : Invocation.ofWords ["scan", "-", "--json"] =
    .run false false (.scan ⟨"-", true, none, false, false⟩) := by
  decide

theorem stdinRecords_debug (environment : Environment) :
    ∀ record ∈ stdinRecords environment, record.level = .debug := by
  intro record member
  rcases List.mem_cons.mp member with rfl | member
  · rfl
  · rw [scanRecords] at member
    split at member
    · cases member
    · cases List.mem_singleton.mp member
      rfl

/-- Records for those who ask for details are not written otherwise. -/
theorem logText_debug {records : List LogRecord} (h : ∀ record ∈ records, record.level = .debug)
    (quiet : Bool) : logText false quiet records = "" := by
  have none : records.filter (fun record =>
      (logLevel false quiet).weight ≤ record.level.weight) = [] := by
    refine List.filter_eq_nil_iff.mpr fun record member => ?_
    rw [h record member]
    cases quiet <;> decide
  rw [logText, none]
  rfl

theorem run_scan_stdin (environment : Environment) :
    run environment ["scan", "-", "--json"] =
      .finished 0 ((scanStdin environment).toJson.render ++ "\n") "" [] := by
  have quiet := logText_debug (stdinRecords_debug environment) false
  rw [run, ofWords_scan_stdin, ← quiet]
  rfl

end CommandLine

/-- The same text gives the same report as a request, on standard input and in a file. -/
theorem entry_points_agree (text : String) (paired : ReturnsPaired text.toList) (files : FileSystem)
    (path : Path) (held : files.root.openPath path = .ok (.file text.toUTF8.data.toList)) :
    (∃ response, handleRequest Builtin.catalog (.object [("code", .string text)]) = .ok response ∧
      response.toJson = .object (scan Builtin.catalog text).toJson) ∧
    CommandLine.run ⟨Builtin.catalog, files, text⟩ ["scan", "-", "--json"] =
      .finished 0 ((ScanResult.mk [⟨"<stdin>", scan Builtin.catalog text⟩] 1).toJson.render ++ "\n") "" [] ∧
    files.scanTarget Builtin.catalog path = ⟨[⟨path.toString, scan Builtin.catalog text⟩], 1⟩ := by
  refine ⟨⟨_, handleRequest_code _ text, Request.respond_toJson _ text⟩, ?_, ?_⟩
  · rw [CommandLine.run_scan_stdin, CommandLine.scanStdin, scan_unifyLineEnds paired]
  · rw [FileSystem.scanTarget_file held, Utf8.readText, Utf8.decode_toUTF8, scan_unifyLineEnds paired]

theorem entry_points_agree_mixed_line_ends :
    let text := "x += 1;\r\n\tnow\n// é€😀\r\n"
    let files : FileSystem := ⟨.directory [("a.sol", .file text.toUTF8.data.toList)], []⟩
    ReturnsPaired text.toList ∧
    files.root.openPath ["a.sol"] = .ok (.file text.toUTF8.data.toList) ∧
    (∃ response, handleRequest Builtin.catalog (.object [("code", .string text)]) = .ok response ∧
      response.toJson = .object (scan Builtin.catalog text).toJson) ∧
    CommandLine.run ⟨Builtin.catalog, files, text⟩ ["scan", "-", "--json"] =
      .finished 0 ((ScanResult.mk [⟨"<stdin>", scan Builtin.catalog text⟩] 1).toJson.render ++ "\n") "" [] ∧
    files.scanTarget Builtin.catalog ["a.sol"] = ⟨[⟨"/a.sol", scan Builtin.catalog text⟩], 1⟩ := by
  intro text files
  have paired : ReturnsPaired text.toList := by decide +kernel
  have held : files.root.openPath ["a.sol"] = .ok (.file text.toUTF8.data.toList) := by rfl
  exact ⟨paired, held, entry_points_agree text paired files ["a.sol"] held⟩

end ContractScan
