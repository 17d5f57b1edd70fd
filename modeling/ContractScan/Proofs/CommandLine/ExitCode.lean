import ContractScan.CommandLine.Run
import ContractScan.Proofs.CommandLine.Words
import ContractScan.Proofs.Report.Aggregates

/-! # Exit codes of a scan

A scan ends with exit code one for three reasons: the level at which it is to fail names no severity, its path
leads nowhere, or a finding that is still shown reaches the level. How the result is told plays no part in it.
Paths on which a link leads to itself are left out.
-/

namespace ContractScan

namespace CommandLine

variable (environment : Environment) (asked : ScanArguments)

def LevelUnknown : Prop :=
  ∃ text, asked.failOn = some text ∧ Severity.parse? text = none

def PathMissing : Prop :=
  asked.path ≠ stdinPath ∧ ∃ place, environment.files.validate asked.path = .error (.missing place)

/-- The path leads into no loop of links: if it is refused, there is nothing at it. -/
def Loopless : Prop :=
  asked.path ≠ stdinPath → ∀ error, environment.files.validate asked.path = .error error → ∃ place, error = .missing place

/-- What a path stands for has been scanned with this result. -/
inductive Scans (path : String) : ScanResult → Prop where
  | stdin : path = stdinPath → Scans path (scanStdin environment)
  | target {place : Path} : path ≠ stdinPath → environment.files.validate path = .ok place →
      Scans path (environment.files.scanTarget environment.catalog place)

/-- The files of the result with the findings that are wanted: all of them, or those that are not
informational. -/
def shownResult (result : ScanResult) : ScanResult :=
  ⟨result.files.map fun file => ⟨file.path, ⟨file.report.findings.filter fun finding =>
    asked.noInformational = true → finding.severity ≠ .informational⟩⟩, result.totalFiles⟩

/-- A finding that is wanted is at least as urgent as the level at which the scan is to fail. -/
def LevelReached : Prop :=
  ∃ text level result, asked.failOn = some text ∧ Severity.parse? text = some level ∧
    Scans environment asked.path result ∧ ∃ file ∈ result.files, ∃ finding ∈ file.report.findings,
      (asked.noInformational = true → finding.severity ≠ .informational) ∧ finding.severity.rank ≤ level.rank

variable {environment asked}

theorem findings_apply (asked : ScanArguments) (report : Report) :
    ScanOptions.apply ⟨!asked.noInformational, true⟩ report =
      ⟨report.findings.filter fun finding => asked.noInformational = true → finding.severity ≠ .informational⟩ := by
  rw [ScanOptions.apply]
  cases asked.noInformational with
  | false => simp
  | true => simp [Report.filter, bne, Bool.beq_eq_decide_eq]

theorem mapReports_apply (asked : ScanArguments) (result : ScanResult) :
    result.mapReports (ScanOptions.apply ⟨!asked.noInformational, true⟩) = shownResult asked result := by
  simp only [ScanResult.mapReports, findings_apply, shownResult]

theorem hasSeverity_shownResult {result : ScanResult} {level : Severity} :
    (shownResult asked result).hasSeverity level = true ↔ ∃ file ∈ result.files, ∃ finding ∈ file.report.findings,
      (asked.noInformational = true → finding.severity ≠ .informational) ∧ finding.severity.rank ≤ level.rank := by
  simp only [ScanResult.hasSeverity, shownResult, List.any_map, List.any_eq_true, Function.comp_apply,
    Report.hasSeverity_iff, List.mem_filter, decide_eq_true_eq, and_assoc]

theorem Scans.unique {path : String} {result other : ScanResult} (h : Scans environment path result)
    (h' : Scans environment path other) : result = other := by
  cases h <;> cases h' <;> simp_all

theorem threshold_unknown {text : String} (given : asked.failOn = some text)
    (unknown : Severity.parse? text = none) :
    threshold asked = .error ("Invalid --fail-on value. " ++ Severity.unknownMessage text) := by
  simp [threshold, given, unknown]

theorem threshold_known (known : ¬ LevelUnknown asked) :
    threshold asked = .ok (asked.failOn.bind Severity.parse?) := by
  unfold threshold
  cases given : asked.failOn with
  | none => rfl
  | some text =>
      cases parsed : Severity.parse? text with
      | none => exact absurd ⟨text, given, parsed⟩ known
      | some level => simp [parsed]

theorem scanInput_missing (missing : PathMissing environment asked) :
    ∃ place, scanInput environment asked = .error (.missing place) := by
  obtain ⟨apart, place, refused⟩ := missing
  refine ⟨place, ?_⟩
  rw [scanInput, if_neg apart, refused]
  rfl

theorem scanInput_found (found : ¬ PathMissing environment asked)
    (loopless : Loopless environment asked) :
    ∃ scanned, scanInput environment asked = .ok scanned ∧ Scans environment asked.path scanned.result := by
  unfold scanInput
  by_cases apart : asked.path = stdinPath
  · rw [if_pos apart]
    exact ⟨_, rfl, .stdin apart⟩
  · rw [if_neg apart]
    cases valid : environment.files.validate asked.path with
    | ok place => exact ⟨_, rfl, .target apart valid⟩
    | error error =>
        obtain ⟨place, rfl⟩ := loopless apart error valid
        exact absurd ⟨apart, place, valid⟩ found

/-- What a run can do: refuse the level, refuse the path, or scan and conclude. -/
theorem runScan_cases (loopless : Loopless environment asked) :
    (LevelUnknown asked ∧ ∃ message, runScan environment asked = .failure message) ∨
    (¬ LevelUnknown asked ∧ PathMissing environment asked ∧
      ∃ message, runScan environment asked = .failure message) ∨
    (¬ LevelUnknown asked ∧ ¬ PathMissing environment asked ∧ ∃ scanned,
      Scans environment asked.path scanned.result ∧
      runScan environment asked = conclude asked (asked.failOn.bind Severity.parse?) scanned) := by
  by_cases unknown : LevelUnknown asked
  · obtain ⟨text, given, refused⟩ := id unknown
    exact .inl ⟨unknown, _, by rw [runScan, threshold_unknown given refused]⟩
  · by_cases missing : PathMissing environment asked
    · obtain ⟨place, refused⟩ := scanInput_missing missing
      exact .inr (.inl ⟨unknown, missing, _, by rw [runScan, threshold_known unknown, refused]⟩)
    · obtain ⟨scanned, input, scans⟩ := scanInput_found missing loopless
      refine .inr (.inr ⟨unknown, missing, scanned, scans, ?_⟩)
      rw [runScan, threshold_known unknown, input]

theorem exitCode_conclude (level : Option Severity) (scanned : Scanned) :
    (conclude asked level scanned).exitCode =
      if (level.filter (shownResult asked scanned.result).hasSeverity).isSome then 1 else 0 := by
  rw [← mapReports_apply]
  unfold conclude
  split <;> rfl

theorem conclude_json (json : asked.json = true) (level : Option Severity) (scanned : Scanned) :
    (conclude asked level scanned).stdout = (shownResult asked scanned.result).toJson.render ++ "\n" ∧
      (conclude asked level scanned).console = [] := by
  rw [← mapReports_apply]
  unfold conclude
  rw [if_pos json]
  exact ⟨rfl, rfl⟩

theorem levelReached_iff {result : ScanResult} (scans : Scans environment asked.path result) :
    ((asked.failOn.bind Severity.parse?).filter (shownResult asked result).hasSeverity).isSome = true ↔
      LevelReached environment asked := by
  constructor
  · intro h
    obtain ⟨level, kept⟩ := Option.isSome_iff_exists.mp h
    obtain ⟨known, reaches⟩ := Option.filter_eq_some_iff.mp kept
    obtain ⟨text, given, parsed⟩ := Option.bind_eq_some_iff.mp known
    exact ⟨text, level, result, given, parsed, scans, hasSeverity_shownResult.mp reaches⟩
  · intro h
    obtain ⟨text, level, other, given, parsed, scans', reaches⟩ := h
    rw [scans'.unique scans] at reaches
    simp [given, parsed, hasSeverity_shownResult.mpr reaches]

def Fails (environment : Environment) (asked : ScanArguments) : Prop :=
  LevelUnknown asked ∨ PathMissing environment asked ∨ LevelReached environment asked

theorem exitCode_runScan (loopless : Loopless environment asked) :
    (Fails environment asked ∧ (runScan environment asked).exitCode = 1) ∨
      (¬ Fails environment asked ∧ (runScan environment asked).exitCode = 0) := by
  rcases runScan_cases loopless with ⟨unknown, message, ran⟩ | ⟨-, missing, message, ran⟩ |
    ⟨known, found, scanned, scans, ran⟩
  · exact .inl ⟨.inl unknown, by rw [ran]; rfl⟩
  · exact .inl ⟨.inr (.inl missing), by rw [ran]; rfl⟩
  · rw [ran, exitCode_conclude]
    have reached := levelReached_iff scans
    split
    · rename_i high
      exact .inl ⟨.inr (.inr (reached.mp high)), rfl⟩
    · rename_i low
      refine .inr ⟨?_, rfl⟩
      simp [Fails, known, found, ← reached, low]

/-- None of the reasons has to do with how the result is told. -/
theorem exitCode_told (loopless : Loopless environment asked) (json brief : Bool) :
    (runScan environment { asked with json, brief }).exitCode = (runScan environment asked).exitCode := by
  let told : ScanArguments := { asked with json, brief }
  have same : Fails environment told ↔ Fails environment asked := Iff.rfl
  have first := exitCode_runScan loopless
  have second : (Fails environment told ∧ (runScan environment told).exitCode = 1) ∨
      (¬ Fails environment told ∧ (runScan environment told).exitCode = 0) := exitCode_runScan loopless
  grind

theorem runScan_levelUnknown {text : String} (given : asked.failOn = some text)
    (unknown : Severity.parse? text = none) (environment : Environment) :
    runScan environment asked = .failure ("Invalid --fail-on value. " ++ Severity.unknownMessage text) := by
  rw [runScan, threshold_unknown given unknown]

theorem run_scan {words : List String} {verbose quiet : Bool}
    (accepted : Invocation.ofWords words = .run verbose quiet (.scan asked)) (environment : Environment) :
    let outcome := runScan environment asked
    run environment words = .finished outcome.exitCode outcome.stdout (logText verbose quiet outcome.records)
      outcome.console := by
  rw [run, accepted]
  rfl

theorem exists_run_told {others : List String} {loud calm json brief : Bool}
    (accepted : Invocation.ofWords others = .run loud calm (.scan { asked with json, brief }))
    (loopless : Loopless environment asked) :
    ∃ out err view, run environment others = .finished (runScan environment asked).exitCode out err view := by
  rw [run_scan accepted environment, exitCode_told loopless]
  exact ⟨_, _, _, rfl⟩

/-- The exit code of a scan is one for an unknown level, a missing path or a finding that reaches the level, and
zero otherwise. The level is looked at first, and how the result is told changes neither the exit code nor, where
it is told as a document, that this document and nothing else is written. -/
theorem scan_exit_code {words : List String} {verbose quiet : Bool} {asked : ScanArguments}
    (accepted : Invocation.ofWords words = .run verbose quiet (.scan asked)) (environment : Environment)
    (loopless : Loopless environment asked) :
    ∃ exitCode stdout stderr console, run environment words = .finished exitCode stdout stderr console ∧
      (exitCode = 1 ↔ LevelUnknown asked ∨ PathMissing environment asked ∨ LevelReached environment asked) ∧
      (exitCode = 0 ↔ ¬ (LevelUnknown asked ∨ PathMissing environment asked ∨ LevelReached environment asked)) ∧
      (∀ text, asked.failOn = some text → Severity.parse? text = none → ∀ other : Environment,
        run other words = .finished 1 "" "" [.text ("[bold red]✗[/bold red] " ++
          Text.Markup.escape ("Invalid --fail-on value. " ++ Severity.unknownMessage text))]) ∧
      (asked.json = true → ¬ LevelUnknown asked → ¬ PathMissing environment asked →
        ∃ result, Scans environment asked.path result ∧
          stdout = (shownResult asked result).toJson.render ++ "\n" ∧ console = []) ∧
      (∀ others loud calm json brief, Invocation.ofWords others = .run loud calm (.scan { asked with json, brief }) →
        ∃ out err view, run environment others = .finished exitCode out err view) ∧
      ∃ before rest, words = before ++ "scan" :: rest ∧
        ∀ flags, (∀ flag ∈ flags, flag = "--json" ∨ flag = "--brief") →
          ∃ out err view, run environment (before ++ "scan" :: (flags ++ rest)) = .finished exitCode out err view := by
  have code := exitCode_runScan loopless
  refine ⟨_, _, _, _, run_scan accepted environment, ?_, ?_, ?_, ?_, ?_, ?_⟩
  · unfold Fails at code
    grind
  · unfold Fails at code
    grind
  · intro text given unknown other
    rw [run_scan accepted other, runScan_levelUnknown given unknown]
    rfl
  · intro json known found
    rcases runScan_cases loopless with ⟨unknown, -⟩ | ⟨-, missing, -⟩ | ⟨-, -, scanned, scans, ran⟩
    · exact absurd unknown known
    · exact absurd missing found
    · rw [ran]
      exact ⟨scanned.result, scans, conclude_json json _ scanned⟩
  · intro others loud calm json brief accepted'
    exact exists_run_told accepted' loopless
  · obtain ⟨before, rest, split, read⟩ := ofWords_outputFlags accepted
    refine ⟨before, rest, split, ?_⟩
    intro flags output
    exact exists_run_told (read flags output) loopless

theorem scan_exit_code_two_files :
    let sum : Rule := ⟨"sum", "Sum", "", .high, [.substring ⟨"+=", by decide⟩], ""⟩
    let note : Rule := ⟨"note", "Note", "", .informational, [.substring ⟨"//", by decide⟩], ""⟩
    let environment : Environment := ⟨[sum, note], ⟨.directory [("a.sol", .file "x += 1; // up".toUTF8.data.toList),
      ("b.sol", .file "// up".toUTF8.data.toList)], []⟩, ""⟩
    let refused : ScanArguments := ⟨"a.sol", false, some "urgent", false, false⟩
    let failing : ScanArguments := ⟨"a.sol", false, some "low", true, false⟩
    let passing : ScanArguments := ⟨"b.sol", true, some "informational", true, false⟩
    Invocation.ofWords ["--quiet", "scan", "a.sol", "--fail-on", "urgent"] = .run false true (.scan refused) ∧
    Invocation.ofWords ["scan", "--no-informational", "a.sol", "--fail-on", "low"] =
      .run false false (.scan failing) ∧
    Invocation.ofWords ["scan", "--json", "--no-informational", "b.sol", "--fail-on", "informational"] =
      .run false false (.scan passing) ∧
    Loopless environment refused ∧ Loopless environment failing ∧ Loopless environment passing ∧
    LevelUnknown refused ∧ LevelReached environment failing ∧ ¬ LevelReached environment passing ∧
    (∃ stdout stderr console,
      run environment ["--quiet", "scan", "a.sol", "--fail-on", "urgent"] = .finished 1 stdout stderr console) ∧
    (∃ stdout stderr console, run environment ["scan", "--no-informational", "a.sol", "--fail-on", "low"] =
      .finished 1 stdout stderr console) ∧
    ∃ stdout stderr console, run environment
      ["scan", "--json", "--no-informational", "b.sol", "--fail-on", "informational"] =
        .finished 0 stdout stderr console := by
  intro sum note environment refused failing passing
  have found : environment.files.validate "a.sol" = .ok ["a.sol"] := by rfl
  have found' : environment.files.validate "b.sol" = .ok ["b.sol"] := by rfl
  have scanned : environment.files.scanTarget [sum, note] ["a.sol"] =
      ⟨[⟨"/a.sol", scan [sum, note] "x += 1; // up"⟩], 1⟩ := by rfl
  have scanned' : environment.files.scanTarget [sum, note] ["b.sol"] =
      ⟨[⟨"/b.sol", scan [sum, note] "// up"⟩], 1⟩ := by rfl
  have accepted : Invocation.ofWords ["--quiet", "scan", "a.sol", "--fail-on", "urgent"] =
      .run false true (.scan refused) := by decide
  have accepted' : Invocation.ofWords ["scan", "--no-informational", "a.sol", "--fail-on", "low"] =
      .run false false (.scan failing) := by decide
  have accepted'' : Invocation.ofWords
      ["scan", "--json", "--no-informational", "b.sol", "--fail-on", "informational"] =
      .run false false (.scan passing) := by decide
  have loopless : Loopless environment refused := fun _ error => by simp [refused, found]
  have loopless' : Loopless environment failing := fun _ error => by simp [failing, found]
  have loopless'' : Loopless environment passing := fun _ error => by simp [passing, found']
  have unknown : LevelUnknown refused := ⟨"urgent", rfl, by decide +kernel⟩
  have reached : LevelReached environment failing := by
    have increment : (⟨1, "x += 1; // up", sum⟩ : Finding) ∈ (scan [sum, note] "x += 1; // up").findings := by
      rw [scan, if_neg (by decide), mem_scanLines]
      refine ⟨"x += 1; // up", by decide, mem_findingsOn.mpr ⟨rfl, by decide, .head _, by decide +kernel⟩⟩
    have scans : Scans environment "a.sol" _ := .target (by decide) found
    rw [scanned] at scans
    exact ⟨"low", .low, _, rfl, by decide +kernel, scans, _, .head _, _, increment, by decide, by decide⟩
  have unreached : ¬ LevelReached environment passing := by
    rintro ⟨_, _, result, -, -, scans, file, listed, finding, member, wanted, -⟩
    have scans' : Scans environment "b.sol" _ := .target (by decide) found'
    rw [scans.unique scans', scanned'] at listed
    cases List.mem_singleton.mp listed
    rw [scan, if_neg (by decide), mem_scanLines] at member
    obtain ⟨line, place, member⟩ := member
    obtain ⟨-, -, isRule, fires⟩ := mem_findingsOn.mp member
    have isLine : line = "// up" := by
      rw [show (Text.lines "// up").zipIdx 1 = [("// up", 1)] by decide] at place
      exact congrArg Prod.fst (List.mem_singleton.mp place)
    rw [isLine] at fires
    have silent : sum.detects "// up" = false := by decide +kernel
    -- The one rule that fires on the line is not wanted.
    rcases List.mem_pair.mp isRule with isSum | isNote
    · rw [isSum, silent] at fires
      cases fires
    · exact wanted rfl (congrArg Rule.severity isNote)
  have known : Severity.parse? "informational" = some .informational := by decide +kernel
  have passes : ¬ (LevelUnknown passing ∨ PathMissing environment passing ∨ LevelReached environment passing) := by
    simp [LevelUnknown, PathMissing, passing, found', unreached, known]
  obtain ⟨code, out, err, view, ran, fails, -⟩ := scan_exit_code accepted environment loopless
  obtain ⟨code', out', err', view', ran', fails', -⟩ := scan_exit_code accepted' environment loopless'
  obtain ⟨code'', out'', err'', view'', ran'', -, ends, -⟩ := scan_exit_code accepted'' environment loopless''
  obtain rfl := fails.mpr (.inl unknown)
  obtain rfl := fails'.mpr (.inr (.inr reached))
  obtain rfl := ends.mpr passes
  exact ⟨accepted, accepted', accepted'', loopless, loopless', loopless'', unknown, reached, unreached,
    ⟨out, err, view, ran⟩, ⟨out', err', view', ran'⟩, out'', err'', view'', ran''⟩

end CommandLine

end ContractScan
