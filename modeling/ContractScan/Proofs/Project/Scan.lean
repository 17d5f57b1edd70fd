import ContractScan.Project.Scan
import ContractScan.Proofs.Catalog.Builtin
import ContractScan.Proofs.Project.Opening
import ContractScan.Proofs.Project.Walk
import ContractScan.Proofs.Scan.Blank

/-! # Scanning projects file by file

The scan of a directory is the scans of its listed paths, one after the other. A path that is listed is a file
or a link, so that the text read from it may stand somewhere else, and both main statements have to say what
the links lead to: what a scan overlooks in a tree may change if the listed links read the same, and writing
to a file changes the reports on the file and on the links to it.
-/

namespace ContractScan

open Text

namespace FileSystem

variable {files other : FileSystem} {catalog : Catalog} {target : Path} {entries : List (String × Entry)}

/-- Each file that can be read adds its report and counts as one more. -/
theorem foldl_scanNext (files : FileSystem) (catalog : Catalog) (result : ScanResult) (paths : List Path) :
    paths.foldl (files.scanNext catalog) result =
      ⟨result.files ++ paths.filterMap (files.scanFile? catalog),
        result.totalFiles + (paths.filterMap (files.scanFile? catalog)).length⟩ := by
  induction paths generalizing result with
  | nil => simp
  | cons path paths ih =>
      rw [List.foldl_cons, ih, scanNext]
      cases made : files.scanFile? catalog path with
      | none => rw [List.filterMap_cons_none made]
      | some report =>
          rw [List.filterMap_cons_some made, ScanResult.mk.injEq]
          simp only [ScanResult.add, List.append_assoc, List.singleton_append, List.length_cons, true_and]
          omega

theorem scanTarget_files_eq (files : FileSystem) (catalog : Catalog) (target : Path) :
    (files.scanTarget catalog target).files =
      (files.sources target).filterMap (files.scanFile? catalog) := by
  rw [scanTarget, foldl_scanNext]
  rfl

theorem scanTarget_totalFiles (files : FileSystem) (catalog : Catalog) (target : Path) :
    (files.scanTarget catalog target).totalFiles = (files.scanTarget catalog target).files.length := by
  rw [scanTarget_files_eq, scanTarget, foldl_scanNext]
  exact Int.zero_add _

theorem scanTarget_files_of_not_directory {path : Path} (plain : files.root.leadsToDirectory path = false) :
    (files.scanTarget catalog path).files = (files.scanFile? catalog path).toList := by
  rw [scanTarget_files_eq]
  unfold sources scanFile? Entry.leadsToFile Entry.readSource
  unfold Entry.leadsToDirectory at plain
  rw [listing_eq, walk]
  cases opened : files.root.openPath path with
  | error error => simp [bind, Except.bind]
  | ok entry =>
      cases entry with
      | directory entries => simp [opened] at plain
      | file bytes => simp [bind, Except.bind, opened]
      | link target => simp [bind, Except.bind, Entry.walk]

theorem unlinked_root (here : files.root.get? target = some (.directory entries)) : files.root.Unlinked [] := by
  obtain ⟨top, root⟩ := Entry.eq_directory_of_get? here
  exact .of_directory (congrArg some root)

section Directory

variable (sound : files.root.isWellFormed = true) (here : files.root.get? target = some (.directory entries))
include sound here

/-- What is listed below a directory, by the paths alone. -/
theorem lists_iff (options : WalkOptions) {path : Path} :
    files.Lists options target path ↔ ∃ directories name entry, path = target ++ directories ++ [name] ∧
      (∀ directory ∈ directories, directory ∉ options.ignoredDirectories) ∧
      FileName.extension name ∈ options.extensions ∧ files.root.leaf? path = some entry ∧
      files.root.leadsToDirectory path = false := by
  have opened := Entry.openPath_of_get? sound here (by simp)
  constructor
  · rintro ⟨top, opened', directories, inner, name, entry, rfl, inside, unignored, member, plain, leads, extension⟩
    cases opened.symm.trans opened'
    have there : files.root.get? (target ++ directories) = some (.directory inner) := by
      rw [Entry.get?_append, here, Option.bind_some, inside]
    have found := (Entry.get?_snoc_eq_some sound there).mpr member
    refine ⟨directories, name, entry, rfl, unignored, extension, Entry.leaf?_eq_some.mpr ⟨found, plain⟩, ?_⟩
    cases entry with
    | file bytes => rw [Entry.leadsToDirectory, Entry.openPath_of_get? sound found (by simp)]
    | link written => exact leads written rfl
    | directory below => cases plain
  · rintro ⟨directories, name, entry, rfl, unignored, extension, leaf, leads⟩
    obtain ⟨found, plain⟩ := Entry.leaf?_eq_some.mp leaf
    obtain ⟨inner, there⟩ := Entry.exists_directory_of_get?_snoc found
    have member := (Entry.get?_snoc_eq_some sound there).mp found
    rw [Entry.get?_append, here, Option.bind_some] at there
    exact ⟨_, opened, directories, inner, name, entry, rfl, there, unignored, member, plain,
      fun _ _ => leads, extension⟩

theorem leaf_of_mem_walk {path : Path} (listed : path ∈ files.walk .default target) :
    ∃ entry, files.root.get? path = some entry ∧ entry.isDirectory = false ∧
      files.root.leadsToDirectory path = false := by
  obtain ⟨_, _, entry, -, -, -, leaf, leads⟩ := (lists_iff sound here .default).mp ((mem_walk sound).mp listed)
  obtain ⟨found, plain⟩ := Entry.leaf?_eq_some.mp leaf
  exact ⟨entry, found, plain, leads⟩

theorem scanTarget_files :
    (files.scanTarget catalog target).files =
      (files.walk .default target).filterMap (files.scanFile? catalog) := by
  have opened := Entry.openPath_of_get? sound here (by simp)
  simp [scanTarget_files_eq, sources, Entry.leadsToFile, opened, listing_eq]

theorem scanTarget_files_eq_flatMap :
    (files.scanTarget catalog target).files =
      (files.walk .default target).flatMap fun path => (files.scanTarget catalog path).files := by
  rw [scanTarget_files sound here, List.filterMap_eq_flatMap_toList]
  refine List.flatMap_congr ?_
  intro path listed
  obtain ⟨_, -, -, leads⟩ := leaf_of_mem_walk sound here listed
  rw [scanTarget_files_of_not_directory leads]

/-- What a listed path adds to a scan: one report, or nothing if it is a link that leads nowhere. -/
theorem scanTarget_files_listed {path : Path} (listed : path ∈ files.walk .default target) :
    (∃ text, files.root.readSource path = .ok text ∧
      (files.scanTarget catalog path).files = [⟨path.toString, scan catalog text⟩]) ∨
    (∃ written, files.root.get? path = some (.link written)) ∧
      (∃ error, files.root.openPath path = .error error) ∧ (files.scanTarget catalog path).files = [] := by
  obtain ⟨entry, found, plain, leads⟩ := leaf_of_mem_walk sound here listed
  rw [scanTarget_files_of_not_directory leads, scanFile?, Entry.readSource]
  cases opened : files.root.openPath path with
  | ok leadsTo =>
      cases leadsTo with
      | file bytes => exact .inl ⟨_, rfl, rfl⟩
      | link written => exact absurd opened (Entry.openPath_ne_link (unlinked_root here) path written)
      | directory below => simp [Entry.leadsToDirectory, opened] at leads
  | error error =>
      refine .inr ⟨?_, ⟨error, rfl⟩, rfl⟩
      cases entry with
      | link written => exact ⟨written, found⟩
      | file bytes => cases opened.symm.trans (Entry.openPath_of_get? sound found (by simp))
      | directory below => cases plain

/-- A listed path that is no link leads to itself. -/
theorem eq_or_link_of_leadsTo {path place : Path} (listed : path ∈ files.walk .default target)
    (leads : files.root.leadsTo path place = true) :
    path = place ∨ ∃ written, files.root.get? path = some (.link written) := by
  obtain ⟨entry, found, plain, -⟩ := leaf_of_mem_walk sound here listed
  cases entry with
  | link written => exact .inr ⟨written, found⟩
  | file bytes =>
      have reached := Entry.openFrom_of_get? sound Entry.maxLinks found (by simp)
      cases reached.symm.trans (Entry.leadsTo_iff.mp leads)
      exact .inl rfl
  | directory below => cases plain

theorem scanTarget_files_rewritten (sound' : other.root.isWellFormed = true) {place : Path}
    {bytes : List UInt8} (rewritten : files.root.Rewritten other.root place bytes) :
    (other.scanTarget catalog target).files = (files.walk .default target).flatMap fun path =>
      if files.root.leadsTo path place then [⟨path.toString, scan catalog (Utf8.readText bytes)⟩]
      else (files.scanTarget catalog path).files := by
  obtain ⟨_, there, alike⟩ := rewritten.outline.exists_of_get? here
  obtain ⟨others, rfl⟩ := Entry.eq_directory_of_outline alike
  rw [scanTarget_files sound' there, List.filterMap_eq_flatMap_toList,
    ← walk_eq_of_sameOutline rewritten.outline sound sound']
  refine List.flatMap_congr ?_
  intro path listed
  obtain ⟨_, -, -, leads⟩ := leaf_of_mem_walk sound here listed
  rw [scanTarget_files_of_not_directory leads, scanFile?, scanFile?, rewritten.readSource]
  cases files.root.leadsTo path place <;> rfl

end Directory

/-- A walk of this system lists the path, and the text can be read from it. -/
def Reads (files : FileSystem) (target path : Path) (text : String) : Prop :=
  files.Lists .default target path ∧ files.root.readSource path = .ok text

def readable (files : FileSystem) (target : Path) : List Path :=
  (files.walk .default target).filter fun path => (files.root.readSource path).isOk

theorem mem_readable (sound : files.root.isWellFormed = true) {path : Path} :
    path ∈ files.readable target ↔ ∃ text, files.Reads target path text := by
  unfold readable Reads
  rw [List.mem_filter, mem_walk sound, exists_and_left]
  cases files.root.readSource path <;> simp [Except.isOk, Except.toBool]

theorem filterMap_scanFile?_readable (files : FileSystem) (catalog : Catalog) (target : Path) :
    (files.readable target).filterMap (files.scanFile? catalog) =
      (files.walk .default target).filterMap (files.scanFile? catalog) := by
  rw [readable, List.filterMap_filter]
  refine List.filterMap_congr ?_
  intro path _
  unfold scanFile?
  cases files.root.readSource path <;> rfl

/-- A scan of the target does not look at the place. -/
inductive Overlooked (files : FileSystem) (target : Path) : Path → Prop where
  /-- No file or link stands there. -/
  | absent {place : Path} : files.root.leaf? place = none → Overlooked files target place
  | outside {place : Path} : ¬ target <+: place → Overlooked files target place
  /-- The place is below a directory that is not entered. -/
  | ignored (directories : Path) {rest : Path} {name : String} : name ∈ WalkOptions.default.ignoredDirectories →
      rest ≠ [] → Overlooked files target (target ++ directories ++ name :: rest)
  | otherExtension (above : Path) {name : String} :
      FileName.extension name ∉ WalkOptions.default.extensions → Overlooked files target (above ++ [name])
  /-- A link that leads to no file. -/
  | unreadable {place : Path} {written : String} : files.root.get? place = some (.link written) →
      (∀ text, files.root.readSource place ≠ .ok text) → Overlooked files target place

/-- Two systems differ only in what a scan of the target overlooks. -/
def AgreeIn (files other : FileSystem) (target : Path) : Prop :=
  ∀ place, files.root.leaf? place = other.root.leaf? place ∨
    files.Overlooked target place ∧ other.Overlooked target place

/-- The links that a scan of the target comes upon read the same in two systems. -/
def LinksAgreeIn (files other : FileSystem) (target : Path) : Prop :=
  ∀ place written, files.root.get? place = some (.link written) → other.root.get? place = some (.link written) →
    files.Lists .default target place ∨ other.Lists .default target place →
    ∀ text, files.root.readSource place = .ok text ↔ other.root.readSource place = .ok text

theorem AgreeIn.symm (agree : files.AgreeIn other target) : other.AgreeIn files target :=
  fun place => (agree place).imp Eq.symm And.symm

theorem LinksAgreeIn.symm (agree : files.LinksAgreeIn other target) : other.LinksAgreeIn files target :=
  fun place written here there listed text => (agree place written there here listed.symm text).symm

/-- What is written to an overlooked place does not tell two systems apart. -/
theorem AgreeIn.of_rewritten {place : Path} {bytes : List UInt8}
    (rewritten : files.root.Rewritten other.root place bytes) (overlooked : files.Overlooked target place)
    (overlooked' : other.Overlooked target place) : files.AgreeIn other target := by
  intro path
  by_cases isPlace : path = place
  · exact .inr (isPlace ▸ ⟨overlooked, overlooked'⟩)
  · exact .inl (rewritten.elsewhere path isPlace)

/-- Writing to a place to which no listed path leads does not tell the links apart. -/
theorem LinksAgreeIn.of_rewritten (sound : files.root.isWellFormed = true)
    (sound' : other.root.isWellFormed = true) {place : Path} {bytes : List UInt8}
    (rewritten : files.root.Rewritten other.root place bytes)
    (apart : ∀ path ∈ files.walk .default target, files.root.leadsTo path place = false) :
    files.LinksAgreeIn other target := by
  intro path written here there listed text
  have member : path ∈ files.walk .default target := by
    rcases listed with listed | listed
    · exact (mem_walk sound).mpr listed
    · rw [walk_eq_of_sameOutline rewritten.outline sound sound']
      exact (mem_walk sound').mpr listed
  rw [rewritten.readSource, if_neg (by simp [apart path member])]

section Agreement

variable (sound : files.root.isWellFormed = true) (here : files.root.get? target = some (.directory entries))
include sound here

theorem reads_iff {path : Path} {text : String} :
    files.Reads target path text ↔ ∃ directories name entry, path = target ++ directories ++ [name] ∧
      (∀ directory ∈ directories, directory ∉ WalkOptions.default.ignoredDirectories) ∧
      FileName.extension name ∈ WalkOptions.default.extensions ∧ files.root.leaf? path = some entry ∧
      files.root.readSource path = .ok text := by
  rw [Reads, lists_iff sound here .default]
  constructor
  · rintro ⟨⟨directories, name, entry, rfl, unignored, extension, leaf, -⟩, read⟩
    exact ⟨directories, name, entry, rfl, unignored, extension, leaf, read⟩
  · rintro ⟨directories, name, entry, rfl, unignored, extension, leaf, read⟩
    exact ⟨⟨directories, name, entry, rfl, unignored, extension, leaf,
      Entry.leadsToDirectory_of_readSource read⟩, read⟩

theorem Reads.not_overlooked {path : Path} {text : String} (reads : files.Reads target path text) :
    ¬ files.Overlooked target path := by
  obtain ⟨directories, name, entry, isPath, unignored, extension, leaf, read⟩ := (reads_iff sound here).mp reads
  intro overlooked
  cases overlooked with
  | absent none => rw [leaf] at none; cases none
  | outside apart => exact apart ⟨directories ++ [name], by rw [isPath, List.append_assoc]⟩
  | @ignored before rest ignored member nonempty =>
      rw [List.append_assoc, List.append_assoc, List.append_cancel_left_eq] at isPath
      -- Something stands below the ignored name, so it is the name of a directory on the way.
      have inside : before ++ ignored :: rest.dropLast = directories := by
        have := congrArg List.dropLast isPath
        simpa [List.dropLast_append_of_ne_nil, List.dropLast_cons_of_ne_nil nonempty] using this
      exact unignored ignored (by simp [← inside]) member
  | otherExtension above other =>
      obtain ⟨-, last⟩ := List.append_inj' isPath rfl
      cases last
      exact other extension
  | unreadable _ unread => exact unread text read

variable (sound' : other.root.isWellFormed = true) {others : List (String × Entry)}
  (there : other.root.get? target = some (.directory others))
include sound' there

/-- The result of a scan depends on what is read and on nothing else. -/
theorem scanTarget_congr (same : ∀ path text, files.Reads target path text ↔ other.Reads target path text) :
    files.scanTarget catalog target = other.scanTarget catalog target := by
  -- The readable paths of both systems are ordered alike and have the same members.
  have paths : files.readable target = other.readable target := by
    apply Path.eq_of_pairwise_before ((walk_ordered sound).filter _) ((walk_ordered sound').filter _)
    intro path
    change path ∈ files.readable target ↔ path ∈ other.readable target
    rw [mem_readable sound, mem_readable sound']
    exact exists_congr fun text => same path text
  have reports : (files.scanTarget catalog target).files = (other.scanTarget catalog target).files := by
    rw [scanTarget_files sound here, scanTarget_files sound' there, ← filterMap_scanFile?_readable,
      ← filterMap_scanFile?_readable, paths]
    refine List.filterMap_congr ?_
    intro path member
    obtain ⟨text, reads⟩ := (mem_readable sound').mp member
    have read : files.root.readSource path = .ok text := ((same path text).mpr reads).2
    rw [scanFile?, scanFile?, read, reads.2]
  have counted (files : FileSystem) : files.scanTarget catalog target =
      ⟨(files.scanTarget catalog target).files, (files.scanTarget catalog target).files.length⟩ := by
    rw [← scanTarget_totalFiles]
  rw [counted files, counted other, reports]

theorem AgreeIn.reads (agree : files.AgreeIn other target) (links : files.LinksAgreeIn other target) {path : Path}
    {text : String} (reads : files.Reads target path text) : other.Reads target path text := by
  rcases agree path with same | ⟨overlooked, -⟩
  · obtain ⟨directories, name, entry, isPath, unignored, extension, leaf, read⟩ := (reads_iff sound here).mp reads
    rw [reads_iff sound' there]
    refine ⟨directories, name, entry, isPath, unignored, extension, same ▸ leaf, ?_⟩
    obtain ⟨found, plain⟩ := Entry.leaf?_eq_some.mp leaf
    obtain ⟨found', -⟩ := Entry.leaf?_eq_some.mp (same ▸ leaf)
    cases entry with
    | file bytes =>
        rw [Entry.readSource, Entry.openPath_of_get? sound found (by simp)] at read
        rw [Entry.readSource, Entry.openPath_of_get? sound' found' (by simp)]
        exact read
    -- The text of a link stands elsewhere, possibly where the systems differ.
    | link written => exact (links path written found found' (.inl reads.1) text).mp read
    | directory below => cases plain
  · exact absurd overlooked (reads.not_overlooked sound here)

theorem scanTarget_eq_of_agreeIn (agree : files.AgreeIn other target) (links : files.LinksAgreeIn other target) :
    files.scanTarget catalog target = other.scanTarget catalog target := by
  apply scanTarget_congr sound here sound' there
  intro path text
  exact ⟨agree.reads sound here sound' there links, agree.symm.reads sound' there sound here links.symm⟩

end Agreement

end FileSystem

/-- The report on a directory is put together from the reports on the files that are listed in it. It depends on
nothing that the listing overlooks, unless a link leads there, and writing other bytes to one file changes the reports
on the paths that lead to that file and no others. -/
theorem scanTarget_by_files (catalog : Catalog) (files : FileSystem) (sound : files.root.isWellFormed = true)
    (target : Path) (entries : List (String × Entry))
    (here : files.root.get? target = some (.directory entries)) :
    let listed := (files.listing .default target).files
    let result := files.scanTarget catalog target
    result.files = listed.flatMap (fun path => (files.scanTarget catalog path).files) ∧
    result.totalFiles = result.files.length ∧
    (∀ path ∈ listed,
      (∃ text, files.root.readSource path = .ok text ∧
        (files.scanTarget catalog path).files = [⟨path.toString, scan catalog text⟩]) ∨
      (∃ written, files.root.get? path = some (.link written)) ∧
        (∃ error, files.root.openPath path = .error error) ∧ (files.scanTarget catalog path).files = []) ∧
    (∀ (other : FileSystem) (others : List (String × Entry)), other.root.isWellFormed = true →
      other.root.get? target = some (.directory others) → files.AgreeIn other target →
      files.LinksAgreeIn other target → other.scanTarget catalog target = result) ∧
    ∀ (other : FileSystem) (place : Path) (bytes : List UInt8), other.root.isWellFormed = true →
      files.root.Rewritten other.root place bytes →
      other.listing .default target = files.listing .default target ∧
      (other.scanTarget catalog target).files = listed.flatMap (fun path =>
        if files.root.leadsTo path place then [⟨path.toString, scan catalog (Utf8.readText bytes)⟩]
        else (files.scanTarget catalog path).files) ∧
      ∀ path ∈ listed, files.root.leadsTo path place = true →
        path = place ∨ ∃ written, files.root.get? path = some (.link written) := by
  intro listed result
  have walked : listed = files.walk .default target := congrArg Listing.files (files.listing_eq _ _)
  rw [walked]
  refine ⟨FileSystem.scanTarget_files_eq_flatMap sound here, files.scanTarget_totalFiles catalog target,
    fun path => FileSystem.scanTarget_files_listed sound here, ?_, ?_⟩
  · intro other others sound' there agree links
    exact (FileSystem.scanTarget_eq_of_agreeIn sound here sound' there agree links).symm
  · intro other place bytes sound' rewritten
    refine ⟨?_, FileSystem.scanTarget_files_rewritten sound here sound' rewritten,
      fun path => FileSystem.eq_or_link_of_leadsTo sound here⟩
    rw [FileSystem.listing_eq, FileSystem.listing_eq,
      FileSystem.walk_eq_of_sameOutline rewritten.outline sound sound']

theorem scanTarget_by_files_loop :
    let project (ignored shared : List UInt8) : FileSystem := ⟨.directory [("project", .directory
      [("b.sol", .file shared), ("build", .directory [("x.sol", .file ignored)]), ("lib", .directory
        [("a.sol", .link "../b.sol"), ("deep", .directory [("loop.sol", .link "loop.sol")])])])], []⟩
    let files := project [] []
    let increment : List UInt8 := [0x2B, 0x3D]
    files.root.isWellFormed = true ∧
    (files.listing .default ["project"]).files =
      [["project", "b.sol"], ["project", "lib", "a.sol"], ["project", "lib", "deep", "loop.sol"]] ∧
    (files.scanTarget Builtin.catalog ["project"]).files =
      [⟨"/project/b.sol", scan Builtin.catalog ""⟩, ⟨"/project/lib/a.sol", scan Builtin.catalog ""⟩] ∧
    files.AgreeIn (project increment []) ["project"] ∧
    (project increment []).scanTarget Builtin.catalog ["project"] =
      files.scanTarget Builtin.catalog ["project"] ∧
    files.root.Rewritten (project [] increment).root ["project", "b.sol"] increment ∧
    ((project [] increment).scanTarget Builtin.catalog ["project"]).files =
      [⟨"/project/b.sol", scan Builtin.catalog "+="⟩, ⟨"/project/lib/a.sol", scan Builtin.catalog "+="⟩] := by
  intro project files increment
  have sound : files.root.isWellFormed = true := rfl
  have walked : files.walk .default ["project"] =
      [["project", "b.sol"], ["project", "lib", "a.sol"], ["project", "lib", "deep", "loop.sol"]] := by
    decide +kernel
  have plus : Utf8.readText increment = "+=" := by decide
  have ignored : files.root.Rewritten (project increment []).root ["project", "build", "x.sol"] increment :=
    .directory (.directory (.directory (.file [] increment) [] [] rfl) [("b.sol", .file [])] _ rfl) [] [] rfl
  have shared : files.root.Rewritten (project [] increment).root ["project", "b.sol"] increment :=
    .directory (.directory (.file [] increment) [] _ rfl) [] [] rfl
  have overlooked (bytes : List UInt8) :
      (project bytes []).Overlooked ["project"] ["project", "build", "x.sol"] :=
    .ignored [] (by decide) (by decide)
  have agree := FileSystem.AgreeIn.of_rewritten ignored (overlooked []) (overlooked increment)
  have links := FileSystem.LinksAgreeIn.of_rewritten sound rfl ignored (by rw [walked]; decide)
  obtain ⟨reports, -, -, unseen, write⟩ := scanTarget_by_files Builtin.catalog files sound ["project"] _ rfl
  obtain ⟨-, written, -⟩ := write (project [] increment) _ increment rfl shared
  have listed : (files.listing .default ["project"]).files = files.walk .default ["project"] :=
    congrArg Listing.files (files.listing_eq _ _)
  rw [listed, walked] at reports written
  rw [plus] at written
  exact ⟨sound, listed.trans walked, reports, agree,
    unseen (project increment []) _ rfl rfl agree links, shared, written⟩

/-- A link may lead to a file that a scan overlooks, or to one that is listed as well: the text of a file of
another extension and the text of another listed file show in the report on the link. -/
theorem scanTarget_reads_linked_files :
    let project (entries : List (String × Entry)) : FileSystem := ⟨.directory [("project", .directory entries)], []⟩
    let linked (bytes : List UInt8) := project [("a.sol", .link "notes.txt"), ("notes.txt", .file bytes)]
    let shared (bytes : List UInt8) := project [("a.sol", .file bytes),
      ("lib", .directory [("b.sol", .link "../a.sol")])]
    let increment : List UInt8 := [0x2B, 0x3D]
    ((linked []).root.isWellFormed = true ∧ (linked increment).root.isWellFormed = true ∧
      (linked []).root.Rewritten (linked increment).root ["project", "notes.txt"] increment ∧
      (linked []).AgreeIn (linked increment) ["project"] ∧
      (linked []).scanTarget Builtin.catalog ["project"] ≠
        (linked increment).scanTarget Builtin.catalog ["project"]) ∧
    (shared []).root.isWellFormed = true ∧ (shared increment).root.isWellFormed = true ∧
      (shared []).root.Rewritten (shared increment).root ["project", "a.sol"] increment ∧
      ⟨"/project/lib/b.sol", scan Builtin.catalog ""⟩ ∈ ((shared []).scanTarget Builtin.catalog ["project"]).files ∧
      ⟨"/project/lib/b.sol", scan Builtin.catalog ""⟩ ∉
        ((shared increment).scanTarget Builtin.catalog ["project"]).files := by
  intro project linked shared increment
  have different : scan Builtin.catalog "" ≠ scan Builtin.catalog "+=" := by
    obtain ⟨rule, member, isListed⟩ := Builtin.exists_of_mem_sought
      (show ("integer-overflow", [.text "+=", .text "-="]) ∈ Builtin.sought by decide)
    have fires : rule.detects "+=" = true := by
      rw [Rule.detects_eq_any_sought, isListed]
      decide +kernel
    have blank : scan Builtin.catalog "" = .empty := scan_blank (by decide)
    have found : (⟨1, trimmed "+=", rule⟩ : Finding) ∈ (scan Builtin.catalog "+=").findings := by
      rw [scan, if_neg (by decide), mem_scanLines]
      exact ⟨"+=", (by decide : ("+=", 1) ∈ (lines "+=").zipIdx 1), mem_findingsOn.mpr ⟨rfl, rfl, member, fires⟩⟩
    intro same
    rw [← same, blank] at found
    cases found
  -- From here on any catalog does that tells the two texts apart.
  generalize Builtin.catalog = catalog at different ⊢
  have walked : ∀ bytes ∈ [[], increment],
      ((linked bytes).root.isWellFormed = true ∧ (shared bytes).root.isWellFormed = true) ∧
      (linked bytes).walk .default ["project"] = [["project", "a.sol"]] ∧
      (shared bytes).walk .default ["project"] = [["project", "a.sol"], ["project", "lib", "b.sol"]] := by
    decide +kernel
  have linked_files (bytes : List UInt8) (member : bytes ∈ [[], increment]) :
      ((linked bytes).scanTarget catalog ["project"]).files =
        [⟨"/project/a.sol", scan catalog (Utf8.readText bytes)⟩] := by
    obtain ⟨⟨sound, -⟩, paths, -⟩ := walked bytes member
    rw [FileSystem.scanTarget_files sound rfl, paths]
    rfl
  have shared_files (bytes : List UInt8) (member : bytes ∈ [[], increment]) :
      ((shared bytes).scanTarget catalog ["project"]).files =
        [⟨"/project/a.sol", scan catalog (Utf8.readText bytes)⟩,
          ⟨"/project/lib/b.sol", scan catalog (Utf8.readText bytes)⟩] := by
    obtain ⟨⟨-, sound⟩, -, paths⟩ := walked bytes member
    rw [FileSystem.scanTarget_files sound rfl, paths]
    rfl
  have empty : Utf8.readText [] = "" := by decide
  have plus : Utf8.readText increment = "+=" := by decide
  have notes : (linked []).root.Rewritten (linked increment).root ["project", "notes.txt"] increment :=
    .directory (.directory (.file [] increment) [("a.sol", .link "notes.txt")] [] rfl) [] [] rfl
  have overlooked (bytes : List UInt8) : (linked bytes).Overlooked ["project"] ["project", "notes.txt"] :=
    .otherExtension ["project"] (by decide +kernel)
  refine ⟨⟨rfl, rfl, notes, .of_rewritten notes (overlooked []) (overlooked increment), ?_⟩, rfl, rfl,
    .directory (.directory (.file [] increment) [] _ rfl) [] [] rfl, ?_, ?_⟩
  · intro same
    have files := congrArg ScanResult.files same
    rw [linked_files [] (by simp), linked_files increment (by simp), empty, plus] at files
    exact different (congrArg FileReport.report (List.cons.inj files).1)
  · rw [shared_files [] (by simp), empty]
    simp
  · rw [shared_files increment (by simp), plus]
    simp [different]

end ContractScan
