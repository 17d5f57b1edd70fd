import ContractScan.Console
import ContractScan.Report
import ContractScan.Text.Markup

/-!
# The terminal view of a result

Each file with findings gets a table, followed by a panel for each rule that fired, unless the view is
brief. A summary closes the view.
-/

namespace ContractScan.Terminal

open Console Text

def color : Severity → String
  | .critical => "magenta"
  | .high => "red"
  | .medium => "yellow"
  | .low => "blue"
  | .informational => "green"

/-- A text in bold and in the colour of a severity. -/
def emphasized (severity : Severity) (text : String) : String :=
  "[bold " ++ color severity ++ "]" ++ text ++ "[/bold " ++ color severity ++ "]"

/-- The longest piece of code that is shown. -/
def snippetMaxLength : Nat := 120

/-- The start of the code of a finding, as markup. -/
def snippet (code : String) : String :=
  Markup.escape (String.ofList (code.toList.take snippetMaxLength))

/-- A row for a finding, which has a number in its table. -/
def findingRow (number : Nat) (finding : Finding) : List String :=
  [toString number, toString finding.line, emphasized finding.severity finding.severity.label,
    finding.rule.name, snippet finding.code]

/-- Rows for findings that are numbered from `number` on. -/
def findingRows (number : Nat) : List Finding → List (List String)
  | [] => []
  | finding :: findings => findingRow number finding :: findingRows (number + 1) findings

def findingsTable (file : FileReport) : Table where
  title := "🔍 " ++ Markup.escape file.path
  columns := [⟨"#", "dim", .left, some 4, none⟩, ⟨"Line", "dim", .right, none, none⟩,
    ⟨"Severity", "", .center, none, none⟩, .plain "Vulnerability" "bold",
    ⟨"Code", "cyan", .left, none, some 60⟩]
  rows := findingRows 1 file.report.findings

def rulePanel (rule : Rule) : Panel where
  markup := Markup.escape rule.description ++ "\n\n[bold]Suggestion:[/bold] " ++
    Markup.escape rule.suggestion
  title := some (emphasized rule.severity rule.name)
  subtitle := some rule.id
  border := color rule.severity

/-- The rules of findings, each identifier once, in order of first appearance, without those in `seen`. -/
def firedRules (seen : List String) : List Finding → List Rule
  | [] => []
  | finding :: findings =>
    if seen.contains finding.rule.id then firedRules seen findings
    else finding.rule :: firedRules (finding.rule.id :: seen) findings

/-- What is shown of a file with findings. -/
def fileView (detailed : Bool) (file : FileReport) : List Item :=
  [.table (findingsTable file), .blank] ++
    if detailed then (firedRules [] file.report.findings).map fun rule => .panel (rulePanel rule)
    else []

def cleanPanel : Panel where
  markup := "[bold green]✔ No vulnerabilities detected[/bold green]"
  title := none
  subtitle := none
  border := "green"

/-- A text with blanks after it up to a width. -/
def padRight (width : Nat) (text : String) : String :=
  text ++ String.ofList (List.replicate (width - text.toList.length) ' ')

def summaryLines (result : ScanResult) : List String :=
  ["[bold]Files scanned:[/bold]  " ++ toString result.totalFiles,
    "[bold]Total findings:[/bold] " ++ toString result.summary.total,
    ""] ++
    Severity.all.map fun severity =>
      emphasized severity (padRight 15 (severity.label ++ ":")) ++ " " ++
        toString (result.summary.count severity)

def summaryPanel (result : ScanResult) : Panel where
  markup := "\n".intercalate (summaryLines result)
  title := some "📊 Scan Summary"
  subtitle := none
  border := "cyan"

/-- Everything that is shown of a result. -/
def view (detailed : Bool) (result : ScanResult) : List Item :=
  let flagged := result.files.filter fun file => !file.report.isClean
  (if flagged.isEmpty then [.panel cleanPanel] else flagged.flatMap (fileView detailed)) ++
    [.panel (summaryPanel result)]

def rulesTable (catalog : Catalog) : Table where
  title := "📚 Rule Catalog"
  columns := [.plain "ID" "cyan", .plain "Name" "bold", ⟨"Severity", "", .center, none, none⟩,
    .plain "Patterns" "dim"]
  rows := catalog.map fun rule =>
    [rule.id, rule.name, emphasized rule.severity rule.severity.label,
      Markup.escape ("\n".intercalate (rule.patterns.map Matcher.source))]

end ContractScan.Terminal
