import ContractScan.Catalog.Builtin
import ContractScan.CommandLine.Arguments
import ContractScan.Example
import ContractScan.Json.Printer
import ContractScan.Options
import ContractScan.Project.Resolve
import ContractScan.Project.Scan
import ContractScan.Terminal

/-!
# Running the command line

A run is a function of the words, the file system, the text on standard input and the catalog. It yields an
exit code and what is written to standard output, to standard error and to the console.
-/

namespace ContractScan.CommandLine

open Console Text

def appName : String := "smartguard"

def version : String := "0.1.0"

/-- What a run depends on, the words apart. -/
structure Environment where
  catalog : Catalog
  files : FileSystem
  /-- The text on standard input, with line ends as they come. -/
  stdin : String

structure Outcome where
  exitCode : Nat
  stdout : String
  records : List LogRecord
  console : List Item
  deriving DecidableEq

namespace Outcome

/-- Prints one text and fails. -/
def failure (message : String) : Outcome :=
  ⟨1, "", [], [.text ("[bold red]✗[/bold red] " ++ Markup.escape message)]⟩

/-- Writes a text and a line end to standard output. -/
def output (text : String) : Outcome :=
  ⟨0, text ++ "\n", [], []⟩

/-- Prints to the console only. -/
def display (items : List Item) : Outcome :=
  ⟨0, "", [], items⟩

end Outcome

/-- The path that stands for standard input. -/
def stdinPath : String := "-"

/-- What is shown before a target is scanned. -/
def banner (target : Path) : List Item :=
  [.panel ⟨"[bold green]SmartGuard initialized[/bold green]", some "🛡 SmartGuard",
      some ("v" ++ version), "cyan"⟩,
    .text ("[dim]Target:[/dim] " ++ Markup.escape target.toString ++ "\n"),
    .text "[bold]Scanning…[/bold]\n"]

/-- What is shown when findings reach the level at which a scan fails. -/
def failureNotice (level : Severity) : Item :=
  .text ("\n[bold red]✗ Scan failed:[/bold red] Findings at severity [bold]" ++ level.label ++
    "[/bold] or above were found.")

/-- The result of scanning a text from standard input. -/
def scanStdin (environment : Environment) : ScanResult :=
  let text := String.ofList (unifyLineEnds environment.stdin.toList)
  ⟨[⟨"<stdin>", scan environment.catalog text⟩], 1⟩

/-- What is logged about scanning a text from standard input. -/
def stdinRecords (environment : Environment) : List LogRecord :=
  ⟨.debug, .commandLine, "reading source from stdin"⟩ ::
    scanRecords environment.catalog (String.ofList (unifyLineEnds environment.stdin.toList))

/-- A result, and what has been logged and shown on the way to it. -/
structure Scanned where
  result : ScanResult
  records : List LogRecord
  shown : List Item

def scanInput (environment : Environment) (arguments : ScanArguments) :
    Except FileSystem.PathError Scanned :=
  if arguments.path = stdinPath then .ok ⟨scanStdin environment, stdinRecords environment, []⟩
  else do
    let target ← environment.files.validate arguments.path
    return ⟨environment.files.scanTarget environment.catalog target,
      ⟨.debug, .commandLine, "scanning " ++ target.toString⟩ ::
        environment.files.targetRecords environment.catalog target,
      if arguments.json then [] else banner target⟩

/-- The severity level at which a scan fails, if there is one. -/
def threshold (arguments : ScanArguments) : Except String (Option Severity) :=
  match arguments.failOn with
  | none => .ok none
  | some text =>
    match Severity.parse? text with
    | some level => .ok (some level)
    | none => .error ("Invalid --fail-on value. " ++ Severity.unknownMessage text)

/-- Tells the result, and fails if it has findings at the level or above. -/
def conclude (arguments : ScanArguments) (level : Option Severity) (scanned : Scanned) : Outcome :=
  let options : ScanOptions := { ScanOptions.default with
    includeInformational := !arguments.noInformational }
  let result := scanned.result.mapReports options.apply
  let failed := level.filter result.hasSeverity
  let exitCode := if failed.isSome then 1 else 0
  if arguments.json then ⟨exitCode, result.toJson.render ++ "\n", scanned.records, []⟩
  else
    ⟨exitCode, "", scanned.records, scanned.shown ++ Terminal.view (!arguments.brief) result ++
      failed.toList.map failureNotice⟩

/-- Runs a scan. A level that names no severity is refused before the path is looked at. -/
def runScan (environment : Environment) (arguments : ScanArguments) : Outcome :=
  match threshold arguments with
  | .error message => .failure message
  | .ok level =>
    match scanInput environment arguments with
    | .error error => .failure error.message
    | .ok scanned => conclude arguments level scanned

/-- A rule with its matchers as written. -/
def ruleJson (rule : Rule) : Json :=
  .object (rule.toJson ++
    [("patterns", .array (rule.patterns.map fun pattern => .string pattern.source))])

def runRules (json : Bool) : Outcome :=
  if json then .output (Json.render (.array (Builtin.catalog.map ruleJson)))
  else .display [.table (Terminal.rulesTable Builtin.catalog)]

def runCommand (environment : Environment) : Command → Outcome
  | .scan arguments => runScan environment arguments
  | .rules json => runRules json
  | .contract => .output Example.contract

/-- What is written to standard error about a record. -/
def recordLine (verbose : Bool) (record : LogRecord) : String :=
  (if verbose then
    "SmartGuard [" ++ record.level.name ++ "] " ++ record.source.name ++ ": " ++ record.message
  else "SmartGuard: " ++ record.message) ++ "\n"

/-- The least important records that are written. -/
def logLevel (verbose quiet : Bool) : LogLevel :=
  if verbose then .debug else if quiet then .warning else .info

/-- What is written to standard error. -/
def logText (verbose quiet : Bool) (records : List LogRecord) : String :=
  let written := records.filter fun record =>
    (logLevel verbose quiet).weight ≤ record.level.weight
  "".intercalate (written.map (recordLine verbose))

/-- The end of a run. What is printed about words that are not well formed, and as help, is left open. -/
inductive Exit where
  | usageError
  | help (command : Option CommandName)
  | finished (exitCode : Nat) (stdout stderr : String) (console : List Item)
  deriving DecidableEq

def Exit.code : Exit → Nat
  | .usageError => 2
  | .help _ => 0
  | .finished exitCode .. => exitCode

def run (environment : Environment) (words : List String) : Exit :=
  match Invocation.ofWords words with
  | .usageError => .usageError
  | .help command => .help command
  | .version =>
    .finished 0 "" "" [.text ("[bold cyan]" ++ appName ++ "[/bold cyan] v" ++ version)]
  | .conflict =>
    let outcome := Outcome.failure "--verbose and --quiet cannot be used together"
    .finished outcome.exitCode outcome.stdout "" outcome.console
  | .run verbose quiet command =>
    let outcome := runCommand environment command
    .finished outcome.exitCode outcome.stdout (logText verbose quiet outcome.records) outcome.console

end ContractScan.CommandLine
