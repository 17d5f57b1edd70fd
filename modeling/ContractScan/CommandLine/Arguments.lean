/-!
# Command-line arguments

Global options come before the name of a command, the options of a command before or after its arguments.
A word that starts with a hyphen and has more after it is an option; two hyphens alone end the options.
-/

namespace ContractScan.CommandLine

/-- What is told at once, whatever else the words ask for. -/
inductive Inquiry where
  | version
  | help
  deriving Repr, DecidableEq

/-- Options that come before the command. -/
structure GlobalOptions where
  /-- Where both are asked for, the one that comes first. -/
  inquiry : Option Inquiry
  verbose : Bool
  quiet : Bool
  deriving Repr, DecidableEq

/-- What is to be scanned, and how the result is told. -/
structure ScanArguments where
  path : String
  json : Bool
  failOn : Option String
  noInformational : Bool
  brief : Bool
  deriving Repr, DecidableEq

/-- What the program is asked to do. -/
inductive Command where
  /-- Scan a file, a directory or standard input. -/
  | scan (arguments : ScanArguments)
  /-- List the built-in rules. -/
  | rules (json : Bool)
  /-- Print the example contract. -/
  | contract
  deriving Repr, DecidableEq

inductive CommandName where
  | scan
  | rules
  | contract
  deriving Repr, DecidableEq

def CommandName.ofWord? : String → Option CommandName
  | "scan" => some .scan
  | "rules" => some .rules
  | "example" => some .contract
  | _ => none

def isOption (word : String) : Bool :=
  match word.toList with
  | '-' :: _ :: _ => true
  | _ => false

def GlobalOptions.default : GlobalOptions :=
  ⟨none, false, false⟩

def GlobalOptions.inquire (options : GlobalOptions) (inquiry : Inquiry) : GlobalOptions :=
  { options with inquiry := options.inquiry.or (some inquiry) }

/-- The global options with those of one word set; none if the word is not known. Short options may stand
together after one hyphen. -/
def GlobalOptions.set? (options : GlobalOptions) (word : String) : Option GlobalOptions :=
  if word = "--version" then some (options.inquire .version)
  else if word = "--help" then some (options.inquire .help)
  else if word = "--verbose" then some { options with verbose := true }
  else if word = "--quiet" then some { options with quiet := true }
  else match word.toList with
    | '-' :: letters =>
      if letters.all (· == 'v') then some (options.inquire .version) else none
    | _ => none

/-- Reads the global options; what follows them is left. None if there is an unknown option. -/
def readGlobal (options : GlobalOptions) : List String → Option (GlobalOptions × List String)
  | [] => some (options, [])
  | word :: words =>
    if word = "--" then some (options, words)
    else if isOption word then (options.set? word).bind fun more => readGlobal more words
    else some (options, word :: words)

inductive OptionKind where
  /-- An option that is given or not. -/
  | flag
  /-- An option with a value. -/
  | value
  deriving Repr, DecidableEq

/-- A word of a command line, or two. -/
inductive Given where
  | flag (name : String)
  | value (name value : String)
  | argument (word : String)
  deriving Repr, DecidableEq

/-- The name and the value in a word such as `--name=value`. -/
def splitAssignment (word : String) : String × Option String :=
  match word.toList.span (· != '=') with
  | (name, _ :: value) => (String.ofList name, some (String.ofList value))
  | (name, []) => (String.ofList name, none)

/-- Reads the words of a command that knows the options in `kinds`. None if an option is unknown, has a
value where it takes none, or lacks one. -/
def readWords (kinds : List (String × OptionKind)) : List String → Option (List Given)
  | [] => some []
  | word :: words =>
    if word = "--" then some (words.map .argument)
    else if isOption word then
      let (name, value) := splitAssignment word
      match kinds.lookup name, value with
      | some .flag, none => (readWords kinds words).map (.flag name :: ·)
      | some .value, some text => (readWords kinds words).map (.value name text :: ·)
      | some .value, none =>
        match words with
        | [] => none
        | text :: others => (readWords kinds others).map (.value name text :: ·)
      | _, _ => none
    else (readWords kinds words).map (.argument word :: ·)

def hasFlag (name : String) (given : List Given) : Bool :=
  given.contains (.flag name)

/-- The last value of an option. -/
def lastValue? (name : String) (given : List Given) : Option String :=
  (given.filterMap fun
    | .value other text => if other = name then some text else none
    | _ => none).getLast?

/-- The words that are not options. -/
def arguments (given : List Given) : List String :=
  given.filterMap fun
    | .argument word => some word
    | _ => none

def CommandName.options : CommandName → List (String × OptionKind)
  | .scan => [("--json", .flag), ("--fail-on", .value), ("--no-informational", .flag),
      ("--brief", .flag), ("--help", .flag)]
  | .rules => [("--json", .flag), ("--help", .flag)]
  | .contract => [("--help", .flag)]

/-- The command that is asked for; none if it has too few arguments or too many. -/
def CommandName.command? (name : CommandName) (given : List Given) : Option Command :=
  match name, arguments given with
  | .scan, [path] =>
    some (.scan ⟨path, hasFlag "--json" given, lastValue? "--fail-on" given,
      hasFlag "--no-informational" given, hasFlag "--brief" given⟩)
  | .rules, [] => some (.rules (hasFlag "--json" given))
  | .contract, [] => some .contract
  | _, _ => none

/-- What a command line asks for. -/
inductive Invocation where
  /-- The words are not well formed. -/
  | usageError
  | version
  /-- Help, with the program or with a command. -/
  | help (command : Option CommandName)
  /-- Both verbose and quiet are asked for. -/
  | conflict
  | run (verbose quiet : Bool) (command : Command)
  deriving Repr, DecidableEq

/-- What the words of a command ask for. Help is given whatever the arguments are. -/
def Invocation.ofCommand (options : GlobalOptions) (name : CommandName) (words : List String) : Invocation :=
  match readWords name.options words with
  | none => .usageError
  | some given =>
    if hasFlag "--help" given then .help (some name)
    else match name.command? given with
      | none => .usageError
      | some command => .run options.verbose options.quiet command

/-- Reads a command line. The version or help is told whatever follows; the name of the command is checked
before the global options are compared, and the words of the command after that. -/
def Invocation.ofWords (words : List String) : Invocation :=
  match readGlobal .default words with
  | none => .usageError
  | some (options, rest) =>
    match options.inquiry, rest with
    | some .version, _ => .version
    | some .help, _ => .help none
    | none, [] => .usageError
    | none, word :: others =>
      match CommandName.ofWord? word with
      | none => .usageError
      | some name =>
        if options.verbose && options.quiet then .conflict
        else .ofCommand options name others

end ContractScan.CommandLine
