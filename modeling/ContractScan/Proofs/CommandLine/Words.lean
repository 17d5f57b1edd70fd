import ContractScan.CommandLine.Arguments
import Mathlib.Data.List.Basic

/-! # Reading command lines

What the words of a command line ask for, taken apart once: the global options, the name of the command and the
words after it. A flag that is put right after the name of a scan is read before the other words and changes
nothing else that they ask for.
-/

namespace ContractScan.CommandLine

theorem readGlobal_split {options more : GlobalOptions} {words rest : List String} {word : String}
    (h : readGlobal options words = some (more, word :: rest)) :
    ∃ before, words = before ++ word :: rest ∧
      ∀ other, readGlobal options (before ++ word :: other) = some (more, word :: other) := by
  induction words generalizing options with
  | nil => simp [readGlobal] at h
  | cons first words ih =>
      rw [readGlobal] at h
      split at h
      · rename_i dashes
        obtain ⟨rfl, rfl⟩ : options = more ∧ words = word :: rest := by simpa using h
        exact ⟨[first], rfl, by simp [readGlobal, dashes]⟩
      · rename_i dashes
        split at h
        · rename_i option
          obtain ⟨set, known, later⟩ := Option.bind_eq_some_iff.mp h
          obtain ⟨before, rfl, read⟩ := ih later
          exact ⟨first :: before, rfl, by simp [readGlobal, dashes, option, known, read]⟩
        · rename_i option
          obtain ⟨rfl, rfl, rfl⟩ : options = more ∧ first = word ∧ words = rest := by simpa using h
          exact ⟨[], rfl, by simp [readGlobal, dashes, option]⟩

theorem Invocation.ofCommand_eq_run {options : GlobalOptions} {name : CommandName} {words : List String}
    {verbose quiet : Bool} {command : Command} :
    Invocation.ofCommand options name words = .run verbose quiet command ↔
      options.verbose = verbose ∧ options.quiet = quiet ∧ ∃ given, readWords name.options words = some given ∧
        hasFlag "--help" given = false ∧ name.command? given = some command := by
  unfold Invocation.ofCommand
  cases readWords name.options words with
  | none => simp
  | some given =>
      cases help : hasFlag "--help" given with
      | true => simp [help]
      | false => cases asked : name.command? given <;> simp [help, asked]

theorem Invocation.ofWords_eq_run {words : List String} {verbose quiet : Bool} {command : Command} :
    Invocation.ofWords words = .run verbose quiet command ↔ ∃ word rest name,
      readGlobal .default words = some (⟨none, verbose, quiet⟩, word :: rest) ∧
      CommandName.ofWord? word = some name ∧ (verbose && quiet) = false ∧
      Invocation.ofCommand ⟨none, verbose, quiet⟩ name rest = .run verbose quiet command := by
  unfold Invocation.ofWords
  cases readGlobal .default words with
  | none => simp
  | some read =>
      obtain ⟨⟨inquiry, loud, calm⟩, others⟩ := read
      rcases inquiry with _ | _ | _
      · cases others with
        | nil => simp
        | cons word rest =>
            cases named : CommandName.ofWord? word with
            | none => simp [named]
            | some name => cases loud <;> cases calm <;> grind [Invocation.ofCommand_eq_run]
      · simp
      · simp

theorem CommandName.ofWord?_eq_scan {word : String} (h : CommandName.ofWord? word = some .scan) :
    word = "scan" := by
  unfold CommandName.ofWord? at h
  split at h <;> simp_all

theorem CommandName.command?_eq_scan {name : CommandName} {given : List Given} {asked : ScanArguments} :
    name.command? given = some (.scan asked) ↔ name = .scan ∧ ∃ path, arguments given = [path] ∧
      asked = ⟨path, hasFlag "--json" given, lastValue? "--fail-on" given,
        hasFlag "--no-informational" given, hasFlag "--brief" given⟩ := by
  unfold CommandName.command?
  constructor
  · intro found
    split at found
    · rename_i path single
      exact ⟨rfl, path, single, by simpa using found.symm⟩
    · simp at found
    · simp at found
    · simp at found
  · rintro ⟨rfl, path, single, rfl⟩
    simp [single]

/-- A flag that says how a result is told, not what it is. -/
def IsOutputFlag (flag : String) : Prop :=
  flag = "--json" ∨ flag = "--brief"

section OutputFlags

variable {options : GlobalOptions} {words : List String} {verbose quiet : Bool} {asked : ScanArguments}

theorem readWords_outputFlag {flag : String} (h : IsOutputFlag flag) (words : List String) :
    readWords CommandName.scan.options (flag :: words) =
      (readWords CommandName.scan.options words).map (.flag flag :: ·) := by
  rcases h with rfl | rfl <;> rw [readWords, if_neg (by decide), if_pos (by decide)] <;> rfl

theorem ofCommand_outputFlag {flag : String} (h : IsOutputFlag flag)
    (read : Invocation.ofCommand options .scan words = .run verbose quiet (.scan asked)) :
    Invocation.ofCommand options .scan (flag :: words) = .run verbose quiet (.scan { asked with
      json := "--json" == flag || asked.json, brief := "--brief" == flag || asked.brief }) := by
  obtain ⟨loud, calm, given, known, helpless, found⟩ := Invocation.ofCommand_eq_run.mp read
  obtain ⟨-, path, single, rfl⟩ := CommandName.command?_eq_scan.mp found
  apply Invocation.ofCommand_eq_run.mpr
  refine ⟨loud, calm, .flag flag :: given, ?_, ?_, ?_⟩
  · rw [readWords_outputFlag h, known]
    rfl
  · have apart : "--help" ≠ flag := by
      rcases h with rfl | rfl <;> decide
    simpa [hasFlag, apart] using helpless
  · apply CommandName.command?_eq_scan.mpr
    refine ⟨rfl, path, single, ?_⟩
    rcases h with rfl | rfl <;> simp [hasFlag, lastValue?]

theorem ofCommand_outputFlags {flags : List String} (h : ∀ flag ∈ flags, IsOutputFlag flag)
    (read : Invocation.ofCommand options .scan words = .run verbose quiet (.scan asked)) :
    Invocation.ofCommand options .scan (flags ++ words) = .run verbose quiet (.scan { asked with
      json := flags.contains "--json" || asked.json, brief := flags.contains "--brief" || asked.brief }) := by
  induction flags with
  | nil => simpa using read
  | cons flag flags ih =>
      have later := ih fun other member => h other (List.mem_cons_of_mem _ member)
      rw [List.cons_append, ofCommand_outputFlag (h flag List.mem_cons_self) later]
      simp only [List.contains_cons, Bool.or_assoc]

/-- Words that ask for a scan have a place for more flags. -/
theorem ofWords_outputFlags (accepted : Invocation.ofWords words = .run verbose quiet (.scan asked)) :
    ∃ before rest, words = before ++ "scan" :: rest ∧
      ∀ flags, (∀ flag ∈ flags, IsOutputFlag flag) →
        Invocation.ofWords (before ++ "scan" :: (flags ++ rest)) = .run verbose quiet (.scan { asked with
          json := flags.contains "--json" || asked.json, brief := flags.contains "--brief" || asked.brief }) := by
  obtain ⟨word, rest, name, global, named, apart, read⟩ := Invocation.ofWords_eq_run.mp accepted
  obtain ⟨-, -, given, -, -, found⟩ := Invocation.ofCommand_eq_run.mp read
  obtain ⟨rfl, -⟩ := CommandName.command?_eq_scan.mp found
  obtain rfl := CommandName.ofWord?_eq_scan named
  obtain ⟨before, split, global⟩ := readGlobal_split global
  refine ⟨before, rest, split, ?_⟩
  intro flags h
  apply Invocation.ofWords_eq_run.mpr
  exact ⟨"scan", flags ++ rest, .scan, global _, rfl, apart, ofCommand_outputFlags h read⟩

end OutputFlags

end ContractScan.CommandLine
