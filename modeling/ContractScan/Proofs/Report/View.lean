import ContractScan.Proofs.Report.Aggregates
import ContractScan.Terminal
import Mathlib.Data.List.Forall2

/-! # The terminal view and the document

The same result is shown in the terminal and written as a document. The view passes over files without findings,
numbers its rows anew in each table, and explains a rule once in each file. The document does none of that. Both
tell the same findings in the same order and the same counts.
-/

namespace ContractScan.Terminal

open Console Text

def tables (items : List Item) : List Table :=
  items.filterMap fun
    | .table table => some table
    | _ => none

/-- Where an identifier appears first among findings. -/
def firstPlace (findings : List Finding) (id : String) : Nat :=
  findings.findIdx fun finding => finding.rule.id == id

/-- The rules of findings, each identifier once, in order of first appearance. Where rules share an identifier, the
one that appears first stands for it. -/
structure Explains (rules : List Rule) (findings : List Finding) : Prop where
  distinct : (rules.map Rule.id).Nodup
  ids (id : String) : id ∈ rules.map Rule.id ↔ ∃ finding ∈ findings, finding.rule.id = id
  first (rule : Rule) : rule ∈ rules →
    (findings.find? fun finding => finding.rule.id == rule.id).map Finding.rule = some rule
  order : rules.Pairwise fun a b => firstPlace findings a.id < firstPlace findings b.id

section FiredRules

variable {seen : List String} {finding : Finding} {findings : List Finding} {rule : Rule}

theorem firedRules_of_mem (h : finding.rule.id ∈ seen) :
    firedRules seen (finding :: findings) = firedRules seen findings := by
  simp [firedRules, h]

theorem firedRules_of_not_mem (h : finding.rule.id ∉ seen) :
    firedRules seen (finding :: findings) = finding.rule :: firedRules (finding.rule.id :: seen) findings := by
  simp [firedRules, h]

theorem mem_ids_firedRules {id : String} :
    id ∈ (firedRules seen findings).map Rule.id ↔ id ∉ seen ∧ ∃ finding ∈ findings, finding.rule.id = id := by
  induction findings generalizing seen with
  | nil => simp [firedRules]
  | cons finding findings ih =>
      by_cases known : finding.rule.id ∈ seen
      · rw [firedRules_of_mem known, ih, List.exists_mem_cons_iff]
        grind
      · rw [firedRules_of_not_mem known, List.map_cons, List.mem_cons, ih, List.exists_mem_cons_iff, List.mem_cons]
        grind

theorem not_mem_seen (h : rule ∈ firedRules seen findings) : rule.id ∉ seen :=
  (mem_ids_firedRules.mp (List.mem_map_of_mem h)).1

theorem firedRules_nodup (seen : List String) (findings : List Finding) :
    ((firedRules seen findings).map Rule.id).Nodup := by
  induction findings generalizing seen with
  | nil => simp [firedRules]
  | cons finding findings ih =>
      by_cases known : finding.rule.id ∈ seen
      · rw [firedRules_of_mem known]
        exact ih seen
      · rw [firedRules_of_not_mem known, List.map_cons, List.nodup_cons, mem_ids_firedRules]
        exact ⟨by simp, ih _⟩

theorem firedRules_sublist (seen : List String) (findings : List Finding) :
    (firedRules seen findings).Sublist (findings.map Finding.rule) := by
  induction findings generalizing seen with
  | nil => simp [firedRules]
  | cons finding findings ih =>
      rw [List.map_cons]
      by_cases known : finding.rule.id ∈ seen
      · rw [firedRules_of_mem known]
        exact (ih seen).cons _
      · rw [firedRules_of_not_mem known]
        exact (ih _).cons_cons _

theorem find?_of_mem_firedRules (h : rule ∈ firedRules seen findings) :
    (findings.find? fun finding => finding.rule.id == rule.id).map Finding.rule = some rule := by
  induction findings generalizing seen with
  | nil => simp [firedRules] at h
  | cons finding findings ih =>
      by_cases known : finding.rule.id ∈ seen
      · rw [firedRules_of_mem known] at h
        have apart : finding.rule.id ≠ rule.id := fun same => not_mem_seen h (same ▸ known)
        rw [List.find?_cons_of_neg (by simpa using apart)]
        exact ih h
      · rw [firedRules_of_not_mem known] at h
        rcases List.mem_cons.mp h with rfl | h
        · simp
        · have apart : finding.rule.id ≠ rule.id := fun same => not_mem_seen h (by simp [same])
          rw [List.find?_cons_of_neg (by simpa using apart)]
          exact ih h

theorem firstPlace_cons_of_ne {id : String} (apart : finding.rule.id ≠ id) :
    firstPlace (finding :: findings) id = firstPlace findings id + 1 := by
  simp [firstPlace, List.findIdx_cons, beq_false_of_ne apart]

/-- Identifiers that are in `seen` are passed over, so the others keep their order after one more finding of such
an identifier. -/
theorem firstPlace_ordered_cons {rules : List Rule} (apart : ∀ rule ∈ rules, finding.rule.id ≠ rule.id)
    (h : rules.Pairwise fun a b => firstPlace findings a.id < firstPlace findings b.id) :
    rules.Pairwise fun a b => firstPlace (finding :: findings) a.id < firstPlace (finding :: findings) b.id := by
  refine h.imp_of_mem ?_
  intro a b left right before
  rw [firstPlace_cons_of_ne (apart a left), firstPlace_cons_of_ne (apart b right)]
  exact Nat.succ_lt_succ before

theorem firedRules_ordered (seen : List String) (findings : List Finding) :
    (firedRules seen findings).Pairwise fun a b => firstPlace findings a.id < firstPlace findings b.id := by
  induction findings generalizing seen with
  | nil => simp [firedRules]
  | cons finding findings ih =>
      by_cases known : finding.rule.id ∈ seen
      · rw [firedRules_of_mem known]
        exact firstPlace_ordered_cons (fun rule member same => not_mem_seen member (same ▸ known)) (ih seen)
      · have apart : ∀ rule ∈ firedRules (finding.rule.id :: seen) findings, finding.rule.id ≠ rule.id :=
          fun rule member same => not_mem_seen member (by simp [same])
        rw [firedRules_of_not_mem known, List.pairwise_cons]
        refine ⟨?_, firstPlace_ordered_cons apart (ih _)⟩
        intro rule member
        rw [firstPlace_cons_of_ne (apart rule member)]
        simp [firstPlace, List.findIdx_cons]

theorem firedRules_explains (findings : List Finding) : Explains (firedRules [] findings) findings where
  distinct := firedRules_nodup [] findings
  ids id := by simp [mem_ids_firedRules]
  first _ := find?_of_mem_firedRules
  order := firedRules_ordered [] findings

/-- Rules that fired in a scan come in the order of the findings, the most urgent first. -/
theorem firedRules_scan (catalog : Catalog) (text : String) :
    (firedRules [] (scan catalog text).findings).Pairwise fun a b => a.severity.rank ≤ b.severity.rank := by
  have ranked : ((scan catalog text).findings.map Finding.rule).Pairwise
      fun a b => a.severity.rank ≤ b.severity.rank := by
    rw [List.pairwise_map]
    exact scan_ranked catalog text
  exact ranked.sublist (firedRules_sublist [] _)

end FiredRules

/-! ## What is shown

The texts stand here as they are printed, apart from the functions that make them.
-/

/-- What opens and closes a text in bold and in the colour of a severity. -/
def marks : Severity → String × String
  | .critical => ("[bold magenta]", "[/bold magenta]")
  | .high => ("[bold red]", "[/bold red]")
  | .medium => ("[bold yellow]", "[/bold yellow]")
  | .low => ("[bold blue]", "[/bold blue]")
  | .informational => ("[bold green]", "[/bold green]")

def inColor (text : String) (severity : Severity) : String :=
  (marks severity).1 ++ text ++ (marks severity).2

theorem emphasized_eq (severity : Severity) (text : String) : emphasized severity text = inColor text severity := by
  have opening : "[bold " ++ color severity ++ "]" = (marks severity).1 := by
    cases severity <;> decide +kernel
  have closing : "[/bold " ++ color severity ++ "]" = (marks severity).2 := by
    cases severity <;> decide +kernel
  rw [inColor, ← opening, ← closing]
  simp only [emphasized, String.append_assoc]

/-- The cells for a finding: its number, its line, its severity, the name of its rule and the start of its code. -/
def cells (number : Nat) (finding : Finding) : List String :=
  [toString number, toString finding.line, inColor finding.severity.label finding.severity, finding.rule.name,
    Markup.escape (String.ofList (finding.code.toList.take 120))]

/-- The table shows the findings of the file, one in a row, numbered from one. -/
structure Tabulates (file : FileReport) (table : Table) : Prop where
  title : table.title = "🔍 " ++ Markup.escape file.path
  headers : table.columns.map Column.header = ["#", "Line", "Severity", "Vulnerability", "Code"]
  row (index : Nat) : table.rows[index]? = file.report.findings[index]?.map (cells (index + 1))

theorem findingRow_eq (number : Nat) (finding : Finding) : findingRow number finding = cells number finding := by
  rw [findingRow, emphasized_eq]
  rfl

theorem getElem?_findingRows (number : Nat) (findings : List Finding) (index : Nat) :
    (findingRows number findings)[index]? = findings[index]?.map (cells (number + index)) := by
  induction findings generalizing number index with
  | nil => simp [findingRows]
  | cons finding findings ih =>
      cases index with
      | zero => simp [findingRows, findingRow_eq]
      | succ index =>
          rw [findingRows, List.getElem?_cons_succ, List.getElem?_cons_succ, ih]
          congr 2
          omega

theorem findingsTable_tabulates (file : FileReport) : Tabulates file (findingsTable file) where
  title := rfl
  headers := rfl
  row index := by
    rw [Nat.add_comm]
    exact getElem?_findingRows 1 file.report.findings index

theorem findingRows_shows (number : Nat) (findings : List Finding) :
    List.Forall₂ (fun finding row => ∃ number, row = cells number finding) findings
      (findingRows number findings) := by
  induction findings generalizing number with
  | nil => exact .nil
  | cons finding findings ih => exact .cons ⟨number, findingRow_eq number finding⟩ (ih _)

/-- The panel explains the rule under its identifier. -/
structure Describes (rule : Rule) (panel : Panel) : Prop where
  title : panel.title = some (inColor rule.name rule.severity)
  subtitle : panel.subtitle = some rule.id
  text : panel.markup = Markup.escape rule.description ++ "\n\n[bold]Suggestion:[/bold] " ++
    Markup.escape rule.suggestion

theorem rulePanel_describes (rule : Rule) : Describes rule (rulePanel rule) where
  title := congrArg some (emphasized_eq rule.severity rule.name)
  subtitle := rfl
  text := rfl

/-- What is shown of a file with findings: a table, and after it a panel for each rule that fired, unless the view is
brief. After a scan the panels come in order of severity. -/
def IsSection (detailed : Bool) (file : FileReport) (items : List Item) : Prop :=
  ∃ table rules panels, items = .table table :: .text "" :: panels.map .panel ∧
    Tabulates file table ∧ List.Forall₂ Describes rules panels ∧
    (detailed = true → Explains rules file.report.findings) ∧ (detailed = false → rules = []) ∧
    ∀ catalog text, file.report = scan catalog text →
      rules.Pairwise fun a b => a.severity.rank ≤ b.severity.rank

theorem fileView_isSection (detailed : Bool) (file : FileReport) :
    IsSection detailed file (fileView detailed file) := by
  let rules := if detailed then firedRules [] file.report.findings else []
  refine ⟨findingsTable file, rules, rules.map rulePanel, ?_, findingsTable_tabulates file, ?_, ?_, ?_, ?_⟩
  · rw [List.map_map]
    cases detailed <;> rfl
  · rw [List.forall₂_map_right_iff]
    exact List.forall₂_same.mpr fun rule _ => rulePanel_describes rule
  · rintro rfl
    exact firedRules_explains file.report.findings
  · rintro rfl
    rfl
  · intro catalog text scanned
    cases detailed with
    | false => exact .nil
    | true =>
        rw [show rules = firedRules [] file.report.findings from rfl, scanned]
        exact firedRules_scan catalog text

theorem tables_fileView (detailed : Bool) (file : FileReport) :
    tables (fileView detailed file) = [findingsTable file] := by
  have panels (rules : List Rule) : tables (rules.map fun rule => .panel (rulePanel rule)) = [] := by
    induction rules with
    | nil => rfl
    | cons rule rules ih => exact ih
  cases detailed with
  | false => rfl
  | true => exact congrArg (findingsTable file :: ·) (panels _)

/-- What is shown if nothing was found. -/
def allClear : Item :=
  .panel ⟨"[bold green]✔ No vulnerabilities detected[/bold green]", none, none, "green"⟩

theorem allClear_not_mem_fileView (detailed : Bool) (file : FileReport) : allClear ∉ fileView detailed file := by
  cases detailed <;> simp [fileView, Item.blank, allClear, rulePanel]

theorem tables_append (items others : List Item) : tables (items ++ others) = tables items ++ tables others :=
  List.filterMap_append

def flagged (result : ScanResult) : List FileReport :=
  result.files.filter fun file => file.report.findings ≠ []

theorem flatMap_flagged (result : ScanResult) :
    (flagged result).flatMap (fun file => file.report.findings) = result.findings := by
  rw [flagged, ScanResult.findings]
  induction result.files with
  | nil => rfl
  | cons file files ih =>
      by_cases clean : file.report.findings = []
      · rw [List.filter_cons_of_neg (by simpa using clean), ih, List.flatMap_cons, clean, List.nil_append]
      · rw [List.filter_cons_of_pos (by simpa using clean), List.flatMap_cons, List.flatMap_cons, ih]

theorem flagged_eq_nil {result : ScanResult} : flagged result = [] ↔ result.findings = [] := by
  rw [← flatMap_flagged]
  constructor
  · intro none
    rw [none]
    rfl
  · intro none
    rw [List.flatMap_eq_nil_iff] at none
    refine List.eq_nil_iff_forall_not_mem.mpr ?_
    intro file member
    exact of_decide_eq_true (List.mem_filter.mp member).2 (none file member)

theorem view_eq (detailed : Bool) (result : ScanResult) :
    view detailed result = (if result.findings = [] then [allClear] else []) ++
      ((flagged result).map (fileView detailed)).flatten ++ [.panel (summaryPanel result)] := by
  have same : (result.files.filter fun file => !file.report.isClean) = flagged result := by
    refine List.filter_congr ?_
    intro file _
    cases found : file.report.findings <;> simp [Report.isClean, found]
  have clear : Item.panel cleanPanel = allClear := rfl
  rw [view, same, clear]
  by_cases none : result.findings = []
  · simp [none, flagged_eq_nil.mpr none]
  · simp [none, mt flagged_eq_nil.mp none, List.flatMap_def]

theorem tables_view (detailed : Bool) (result : ScanResult) :
    tables (view detailed result) = (flagged result).map findingsTable := by
  have start : tables (if result.findings = [] then [allClear] else []) = [] := by
    split <;> rfl
  have middle (files : List FileReport) :
      tables (files.map (fileView detailed)).flatten = files.map findingsTable := by
    induction files with
    | nil => rfl
    | cons file files ih =>
        rw [List.map_cons, List.flatten_cons, tables_append, tables_fileView, ih]
        rfl
  rw [view_eq, tables_append, tables_append, start, middle]
  exact List.append_nil _

theorem allClear_mem_view {detailed : Bool} {result : ScanResult} :
    allClear ∈ view detailed result ↔ result.findings = [] := by
  have summary : allClear ≠ .panel (summaryPanel result) := by
    simp [allClear, summaryPanel]
  have files : allClear ∉ ((flagged result).map (fileView detailed)).flatten := by
    simp [allClear_not_mem_fileView]
  rw [view_eq, List.mem_append, List.mem_append, List.mem_singleton]
  by_cases none : result.findings = [] <;> simp [none, summary, files]

/-- The rows of all tables show all findings, one after the other. -/
theorem rows_show_findings (detailed : Bool) (result : ScanResult) :
    List.Forall₂ (fun finding row => ∃ number, row = cells number finding) result.findings
      ((tables (view detailed result)).flatMap Table.rows) := by
  rw [tables_view, ← flatMap_flagged]
  induction flagged result with
  | nil => exact .nil
  | cons file files ih =>
      rw [List.flatMap_cons, List.map_cons, List.flatMap_cons]
      exact List.rel_append (findingRows_shows 1 file.report.findings) ih

/-- The start of the line of a summary that counts a severity. -/
def countLabel : Severity → String
  | .critical => "[bold magenta]Critical:      [/bold magenta] "
  | .high => "[bold red]High:          [/bold red] "
  | .medium => "[bold yellow]Medium:        [/bold yellow] "
  | .low => "[bold blue]Low:           [/bold blue] "
  | .informational => "[bold green]Informational: [/bold green] "

def summaryOf (files total : Int) (count : Severity → Int) : Panel where
  markup := "\n".intercalate (["[bold]Files scanned:[/bold]  " ++ toString files,
    "[bold]Total findings:[/bold] " ++ toString total, ""] ++
      Severity.all.map fun severity => countLabel severity ++ toString (count severity))
  title := some "📊 Scan Summary"
  subtitle := none
  border := "cyan"

theorem summaryPanel_eq (result : ScanResult) :
    summaryPanel result = summaryOf result.totalFiles result.summary.total result.summary.count := by
  have label (severity : Severity) :
      emphasized severity (padRight 15 (severity.label ++ ":")) ++ " " = countLabel severity := by
    cases severity <;> decide +kernel
  rw [summaryPanel, summaryLines]
  simp only [label]
  rfl

/-- The document of a result tells these numbers. -/
structure Tells (document : Json) (files total : Int) (count : Severity → Int) : Prop where
  files : document.field? "total_files" = some (.int files)
  total : document.field? "total_findings" = some (.int total)
  count : ∃ summary, document.field? "summary" = some summary ∧
    ∀ severity, summary.field? severity.key = some (.int (count severity))

theorem tells_toJson (result : ScanResult) :
    Tells result.toJson result.totalFiles result.summary.total result.summary.count where
  files := rfl
  total := by
    rw [result.tallied.total]
    rfl
  count := ⟨result.summary.toJson, rfl, result.summary.field?_toJson⟩

theorem field?_total_findings_eq_zero {result : ScanResult} :
    result.toJson.field? "total_findings" = some (.int 0) ↔ result.findings = [] := by
  have told : result.toJson.field? "total_findings" = some (.int result.findings.length) := rfl
  simp [told, Json.int]

/-- The terminal view has a section for each file with findings, in order; their rows taken together are all findings.
It says that there are none exactly when the document counts none, and its summary has the numbers of the document. -/
theorem view_agrees_with_document (detailed : Bool) (result : ScanResult) :
    let items := view detailed result
    let noFindings := result.toJson.field? "total_findings" = some (.int 0)
    (∃ start sections summary, items = start ++ List.flatten sections ++ [.panel summary] ∧
      (noFindings → start = [allClear]) ∧ (¬ noFindings → start = []) ∧
      List.Forall₂ (IsSection detailed) (flagged result) sections ∧
      ∃ files total count, Tells result.toJson files total count ∧ summary = summaryOf files total count) ∧
    List.Forall₂ Tabulates (flagged result) (tables items) ∧
    List.Forall₂ (fun finding row => ∃ number, row = cells number finding) result.findings
      ((tables items).flatMap Table.rows) ∧
    (allClear ∈ items ↔ noFindings) ∧ (noFindings → tables items = []) := by
  intro items noFindings
  have counted : noFindings ↔ result.findings = [] := field?_total_findings_eq_zero
  refine ⟨⟨_, _, summaryPanel result, view_eq detailed result, ?_, ?_, ?_, ?_⟩, ?_,
    rows_show_findings detailed result, ?_, ?_⟩
  · intro zero
    exact if_pos (counted.mp zero)
  · intro some
    exact if_neg (mt counted.mpr some)
  · rw [List.forall₂_map_right_iff]
    exact List.forall₂_same.mpr fun file _ => fileView_isSection detailed file
  · exact ⟨_, _, _, tells_toJson result, summaryPanel_eq result⟩
  · rw [tables_view, List.forall₂_map_right_iff]
    exact List.forall₂_same.mpr fun file _ => findingsTable_tabulates file
  · exact allClear_mem_view.trans counted.symm
  · intro zero
    rw [tables_view, flagged_eq_nil.mpr (counted.mp zero)]
    rfl

end ContractScan.Terminal
