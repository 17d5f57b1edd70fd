import ContractScan.Project.Walk
import ContractScan.Proofs.Project.Tree
import Mathlib.Data.List.TakeWhile

/-! # What a walk lists

A path is listed if the way to it passes directories that are not ignored and its last name belongs to an entry
with a listed extension that neither is nor leads to a directory. The list is ordered by a strict order on
paths: a file stands before the contents of the subdirectories next to it, and names are compared by code
points. An ordered list is determined by its members, so the order of entries in the tree does not matter.
-/

namespace ContractScan

namespace FileName

theorem extension_append_dot (stem : List Char) {ending : List Char} (last : '.' ∉ ending) :
    extension (String.ofList (stem ++ '.' :: ending)) =
      if stem.all (· == '.') then "" else String.ofList ('.' :: ending) := by
  have passes : ∀ c ∈ ending.reverse, (c != '.') = true := by
    intro c member
    rw [bne_iff_ne]
    rintro rfl
    exact last (List.mem_reverse.mp member)
  have split : (stem ++ '.' :: ending).reverse = ending.reverse ++ '.' :: stem.reverse := by simp
  have dropped : (ending.reverse ++ '.' :: stem.reverse).dropWhile (· != '.') = '.' :: stem.reverse := by
    rw [List.dropWhile_append_of_pos passes, List.dropWhile_cons_of_neg (by simp)]
  have taken : (ending.reverse ++ '.' :: stem.reverse).takeWhile (· != '.') = ending.reverse := by
    rw [List.takeWhile_append_of_pos passes, List.takeWhile_cons_of_neg (by simp), List.append_nil]
  rw [extension, String.toList_ofList, split, dropped, taken]
  simp only [List.all_reverse, List.reverse_reverse]

theorem extension_of_not_mem {name : String} (dotless : '.' ∉ name.toList) : extension name = "" := by
  have dropped : name.toList.reverse.dropWhile (· != '.') = [] := by
    apply List.dropWhile_eq_nil_iff.mpr
    intro c member
    rw [bne_iff_ne]
    rintro rfl
    exact dotless (List.mem_reverse.mp member)
  rw [extension, dropped]

theorem exists_last_dot {name : List Char} (dotted : '.' ∈ name) :
    ∃ stem ending, name = stem ++ '.' :: ending ∧ '.' ∉ ending := by
  obtain ⟨ending, stem, split, last⟩ := List.eq_append_cons_of_mem (List.mem_reverse.mpr dotted)
  refine ⟨stem.reverse, ending.reverse, ?_, by simpa using last⟩
  simpa using congrArg List.reverse split

/-- A name has an extension if something but dots stands before its last dot. -/
theorem extension_eq_iff {ending : List Char} (last : '.' ∉ ending) {name : String} :
    extension name = String.ofList ('.' :: ending) ↔
      ∃ stem, name = String.ofList (stem ++ '.' :: ending) ∧ ∃ c ∈ stem, c ≠ '.' := by
  constructor
  · intro found
    by_cases dotted : '.' ∈ name.toList
    · obtain ⟨stem, rest, split, apart⟩ := exists_last_dot dotted
      have written : name = String.ofList (stem ++ '.' :: rest) := by rw [← split, String.ofList_toList]
      rw [written, extension_append_dot stem apart] at found
      split at found
      · simp [String.ext_iff] at found
      · rename_i visible
        obtain rfl : rest = ending := by simpa using String.ofList_injective found
        exact ⟨stem, written, by simpa using visible⟩
    · rw [extension_of_not_mem dotted] at found
      simp [String.ext_iff] at found
  · rintro ⟨stem, rfl, c, member, visible⟩
    rw [extension_append_dot stem last, if_neg]
    intro dots
    exact visible (by simpa using List.all_eq_true.mp dots c member)

theorem mem_default_extensions {name : String} : extension name ∈ WalkOptions.default.extensions ↔
    ∃ stem, name = stem ++ ".sol" ∧ ∃ c ∈ stem.toList, c ≠ '.' := by
  have listed : extension name ∈ WalkOptions.default.extensions ↔
      extension name = String.ofList ['.', 's', 'o', 'l'] := List.mem_singleton
  rw [listed, extension_eq_iff (by decide)]
  constructor
  · rintro ⟨stem, rfl, visible⟩
    exact ⟨String.ofList stem, by simp, by simpa using visible⟩
  · rintro ⟨stem, rfl, visible⟩
    exact ⟨stem.toList, by simp, visible⟩

/-- Items with distinct names are sorted strictly. -/
theorem mergeSort_strict {α : Type} (name : α → String) {items : List α} (distinct : (items.map name).Nodup) :
    (items.mergeSort fun a b => name a ≤ name b).Pairwise fun a b => name a < name b := by
  have ordered : (items.mergeSort fun a b => name a ≤ name b).Pairwise fun a b =>
      decide (name a ≤ name b) = true := by
    apply List.pairwise_mergeSort
    · intro a b c ab bc
      exact decide_eq_true (String.le_trans (of_decide_eq_true ab) (of_decide_eq_true bc))
    · intro a b
      simpa using String.le_total (name a) (name b)
  have apart : (items.mergeSort fun a b => name a ≤ name b).Pairwise fun a b => name a ≠ name b :=
    List.pairwise_map.mp (((List.mergeSort_perm items _).map name).nodup_iff.mpr distinct)
  refine List.Pairwise.imp₂ ?_ ordered apart
  intro a b le ne
  exact Std.lt_of_le_of_ne (of_decide_eq_true le) ne

theorem sort_strict {names : List String} (distinct : names.Nodup) : (sort names).Pairwise (· < ·) :=
  mergeSort_strict id (by rwa [List.map_id])

end FileName

namespace Path

/-- The order of listed paths. -/
inductive Before : Path → Path → Prop where
  /-- Files of one directory stand in the order of their names. -/
  | files {a b : String} : a < b → Before [a] [b]
  /-- A file stands before what is in the subdirectories next to it. -/
  | descend {a b : String} {below : Path} : below ≠ [] → Before [a] (b :: below)
  /-- The contents of subdirectories stand in the order of their names. -/
  | folders {a b : String} {below other : Path} : a < b → below ≠ [] → other ≠ [] →
      Before (a :: below) (b :: other)
  | inside {a : String} {below other : Path} : Before below other → Before (a :: below) (a :: other)

theorem Before.asymm {p q : Path} (h : Before p q) : ¬ Before q p := by
  induction h with
  | files lt =>
      intro back
      cases back with
      | files gt => exact String.lt_asymm lt gt
      | descend ne => exact ne rfl
      | folders _ ne => exact ne rfl
      | inside back => cases back
  | descend ne =>
      intro back
      cases back with
      | files => exact ne rfl
      | descend ne' => exact ne' rfl
      | folders _ _ ne' => exact ne' rfl
      | inside back => cases back
  | folders lt ne ne' =>
      intro back
      cases back with
      | files => exact ne rfl
      | descend => exact ne' rfl
      | folders gt => exact String.lt_asymm lt gt
      | inside => exact String.lt_irrefl _ lt
  | inside h ih =>
      intro back
      cases back with
      | files lt => exact String.lt_irrefl _ lt
      | descend => cases h
      | folders lt => exact String.lt_irrefl _ lt
      | inside back => exact ih back

theorem Before.append {p q : Path} (h : Before p q) (path : Path) : Before (path ++ p) (path ++ q) := by
  induction path with
  | nil => exact h
  | cons name path ih => exact .inside ih

/-- An ordered list has no path twice. -/
theorem nodup_of_pairwise_before {paths : List Path} (ordered : paths.Pairwise Before) : paths.Nodup := by
  refine ordered.imp ?_
  rintro p _ before rfl
  exact before.asymm before

/-- The members of an ordered list determine it. -/
theorem eq_of_pairwise_before {paths others : List Path} (ordered : paths.Pairwise Before)
    (ordered' : others.Pairwise Before) (same : ∀ path, path ∈ paths ↔ path ∈ others) : paths = others := by
  have perm : paths.Perm others := (List.perm_ext_iff_of_nodup (nodup_of_pairwise_before ordered)
    (nodup_of_pairwise_before ordered')).mpr same
  refine perm.eq_of_pairwise ?_ ordered ordered'
  intro p q _ _ before after
  exact absurd after before.asymm

end Path

namespace Entry

/-- The path is listed by a walk that starts at `start`, where `top` stands. -/
def Lists (root : Entry) (options : WalkOptions) (start : Path) (top : Entry) (path : Path) : Prop :=
  ∃ directories entries name entry, path = start ++ directories ++ [name] ∧
    top.get? directories = some (.directory entries) ∧
    (∀ directory ∈ directories, directory ∉ options.ignoredDirectories) ∧
    (name, entry) ∈ entries ∧ entry.isDirectory = false ∧
    (∀ target, entry = .link target → root.leadsToDirectory path = false) ∧
    FileName.extension name ∈ options.extensions

variable {root : Entry} {options : WalkOptions} {path : Path}

theorem countsAsDirectory_eq_false {entry : Entry} : countsAsDirectory root path entry = false ↔
    entry.isDirectory = false ∧ ∀ target, entry = .link target → root.leadsToDirectory path = false := by
  cases entry <;> simp [countsAsDirectory, isDirectory]

theorem mem_listedFiles {entries : List (String × Entry)} {listed : Path} :
    listed ∈ listedFiles root options path entries ↔ ∃ name entry, (name, entry) ∈ entries ∧
      listed = path ++ [name] ∧ countsAsDirectory root (path ++ [name]) entry = false ∧
      FileName.extension name ∈ options.extensions := by
  simp only [listedFiles, FileName.sort, List.mem_map, (List.mergeSort_perm _ _).mem_iff, List.mem_filter, Bool.and_eq_true,
    Bool.not_eq_true', List.contains_iff_mem, Prod.exists]
  constructor
  · rintro ⟨_, ⟨name, entry, ⟨member, counts, extension⟩, rfl⟩, rfl⟩
    exact ⟨name, entry, member, rfl, counts, extension⟩
  · rintro ⟨name, entry, member, rfl, counts, extension⟩
    exact ⟨name, ⟨name, entry, ⟨member, counts, extension⟩, rfl⟩, rfl⟩

theorem mem_walkEntries {entries : List (String × Entry)} {name : String} {list : List Path} :
    (name, list) ∈ walkEntries root options path entries ↔ ∃ below, (name, .directory below) ∈ entries ∧
      name ∉ options.ignoredDirectories ∧ list = walk root options (path ++ [name]) (.directory below) := by
  induction entries with
  | nil => simp [walkEntries]
  | cons first entries ih =>
      obtain ⟨key, entry⟩ := first
      cases entry with
      | directory inner =>
          simp only [walkEntries, List.contains_iff_mem, List.mem_cons, Prod.mk.injEq, directory.injEq,
            or_and_right, exists_or, and_assoc, exists_and_left, exists_eq_left, ← ih]
          by_cases ignored : key ∈ options.ignoredDirectories
          · rw [if_pos ignored]
            refine (or_iff_right ?_).symm
            rintro ⟨rfl, visible, -⟩
            exact visible ignored
          · rw [if_neg ignored, List.mem_cons, Prod.mk.injEq]
            refine or_congr ?_ Iff.rfl
            constructor
            · rintro ⟨rfl, rfl⟩
              exact ⟨rfl, ignored, rfl⟩
            · rintro ⟨rfl, -, rfl⟩
              exact ⟨rfl, rfl⟩
      | _ => simp [walkEntries, ih]

/-- One level of a walk. -/
theorem mem_walk_directory {entries : List (String × Entry)} {listed : Path} :
    listed ∈ walk root options path (.directory entries) ↔
      listed ∈ listedFiles root options path entries ∨
      ∃ name below, (name, .directory below) ∈ entries ∧ name ∉ options.ignoredDirectories ∧
        listed ∈ walk root options (path ++ [name]) (.directory below) := by
  rw [walk, List.mem_append, List.mem_flatMap]
  refine or_congr Iff.rfl ?_
  simp only [sortByName, (List.mergeSort_perm _ _).mem_iff, Prod.exists, mem_walkEntries]
  constructor
  · rintro ⟨name, _, ⟨below, member, visible, rfl⟩, listed⟩
    exact ⟨name, below, member, visible, listed⟩
  · rintro ⟨name, below, member, visible, listed⟩
    exact ⟨name, _, ⟨below, member, visible, rfl⟩, listed⟩

theorem eq_directory_of_get? {top : Entry} {entries : List (String × Entry)}
    (here : top.get? path = some (.directory entries)) : ∃ below, top = .directory below := by
  cases top with
  | directory below => exact ⟨below, rfl⟩
  | _ => cases path <;> cases here

theorem mem_walk {top : Entry} (sound : top.isWellFormed = true) {listed : Path} :
    listed ∈ walk root options path top ↔ root.Lists options path top listed := by
  induction top using induction_on generalizing path listed with
  | directory entries ih =>
      obtain ⟨distinct, below_sound⟩ := isWellFormed_directory.mp sound
      rw [mem_walk_directory, mem_listedFiles]
      constructor
      · rintro (⟨name, entry, member, rfl, counts, extension⟩ | ⟨name, below, member, visible, listed⟩)
        · obtain ⟨plain, leads⟩ := countsAsDirectory_eq_false.mp counts
          exact ⟨[], entries, name, entry, by simp, rfl, by simp, member, plain, leads, extension⟩
        · rw [ih name _ member (below_sound _ member).2] at listed
          obtain ⟨directories, inner, last, entry, rfl, here, unignored, rest⟩ := listed
          refine ⟨name :: directories, inner, last, entry, by simp, ?_,
            List.forall_mem_cons.mpr ⟨visible, unignored⟩, rest⟩
          rw [get?, (lookup_eq_some_iff distinct).mpr member, Option.bind_some, here]
      · rintro ⟨directories, inner, last, entry, rfl, here, unignored, member, plain, leads, extension⟩
        cases directories with
        | nil =>
            cases here
            rw [List.append_nil] at leads ⊢
            exact .inl ⟨last, entry, member, rfl, countsAsDirectory_eq_false.mpr ⟨plain, leads⟩, extension⟩
        | cons name directories =>
            obtain ⟨visible, unignored⟩ := List.forall_mem_cons.mp unignored
            rw [get?] at here
            obtain ⟨next, found, here⟩ := Option.bind_eq_some_iff.mp here
            obtain ⟨below, rfl⟩ := eq_directory_of_get? here
            have child := (lookup_eq_some_iff distinct).mp found
            refine .inr ⟨name, below, child, visible, ?_⟩
            rw [ih name _ child (below_sound _ child).2]
            exact ⟨directories, inner, last, entry, by simp, here, unignored, member, plain, leads, extension⟩
  | _ =>
      constructor
      · intro listed
        cases listed
      · rintro ⟨directories, inner, last, entry, -, here, -⟩
        obtain ⟨below, same⟩ := eq_directory_of_get? here
        cases same

theorem Lists.exists_below {start : Path} {top : Entry} {listed : Path}
    (h : root.Lists options start top listed) : ∃ rest, listed = start ++ rest ∧ rest ≠ [] := by
  obtain ⟨directories, _, name, _, rfl, -⟩ := h
  exact ⟨directories ++ [name], by simp, by simp⟩

theorem listedFiles_ordered {entries : List (String × Entry)} (distinct : (entries.map Prod.fst).Nodup) :
    (listedFiles root options path entries).Pairwise Path.Before := by
  apply List.pairwise_map.mpr
  refine (FileName.sort_strict (distinct.sublist (List.filter_sublist.map Prod.fst))).imp ?_
  intro a b lt
  exact (Path.Before.files lt).append path

theorem walkEntries_names_sublist (root : Entry) (options : WalkOptions) (path : Path)
    (entries : List (String × Entry)) :
    ((walkEntries root options path entries).map Prod.fst).Sublist (entries.map Prod.fst) := by
  induction entries with
  | nil => exact .slnil
  | cons first entries ih =>
      obtain ⟨name, entry⟩ := first
      cases entry with
      | directory below =>
          rw [walkEntries]
          split
          · exact .cons name ih
          · exact .cons_cons name ih
      | _ => exact .cons name ih

theorem sortByName_strict {lists : List (String × List Path)} (distinct : (lists.map Prod.fst).Nodup) :
    (sortByName lists).Pairwise fun a b => a.1 < b.1 :=
  FileName.mergeSort_strict Prod.fst distinct

theorem walk_ordered {top : Entry} (sound : top.isWellFormed = true) :
    (walk root options path top).Pairwise Path.Before := by
  induction top using induction_on generalizing path with
  | directory entries ih =>
      obtain ⟨distinct, below_sound⟩ := isWellFormed_directory.mp sound
      -- What is listed below a subdirectory is listed by the walk of that subdirectory.
      have inside {name : String} {list : List Path}
          (member : (name, list) ∈ sortByName (walkEntries root options path entries)) :
          list.Pairwise Path.Before ∧ ∀ listed ∈ list, ∃ rest, listed = path ++ name :: rest ∧ rest ≠ [] := by
        obtain ⟨below, child, -, rfl⟩ := mem_walkEntries.mp ((List.mergeSort_perm _ _).mem_iff.mp member)
        refine ⟨ih name _ child (below_sound _ child).2, ?_⟩
        intro listed here
        obtain ⟨rest, rfl, nonempty⟩ := ((mem_walk (below_sound _ child).2).mp here).exists_below
        exact ⟨rest, by simp, nonempty⟩
      rw [walk, List.pairwise_append]
      refine ⟨listedFiles_ordered distinct, ?_, ?_⟩
      · rw [List.pairwise_flatMap]
        refine ⟨fun item member => (inside member).1, ?_⟩
        have strict := sortByName_strict (distinct.sublist (walkEntries_names_sublist root options path entries))
        refine strict.imp_of_mem ?_
        intro a b here there lt p hp q hq
        obtain ⟨rest, rfl, nonempty⟩ := (inside here).2 p hp
        obtain ⟨rest', rfl, nonempty'⟩ := (inside there).2 q hq
        exact (Path.Before.folders lt nonempty nonempty').append path
      · intro p hp q hq
        obtain ⟨name, _, _, rfl, -⟩ := mem_listedFiles.mp hp
        obtain ⟨item, member, hq⟩ := List.mem_flatMap.mp hq
        obtain ⟨rest, rfl, nonempty⟩ := (inside member).2 q hq
        exact (Path.Before.descend nonempty).append path
  | _ => exact .nil

/-- Trees of the same outline have the same paths to list. -/
theorem Lists.of_sameOutline {other top counterpart : Entry} {start listed : Path} (same : SameOutline root other)
    (below : SameOutline top counterpart) (sound : top.isWellFormed = true)
    (sound' : counterpart.isWellFormed = true) (h : root.Lists options start top listed) :
    other.Lists options start counterpart listed := by
  obtain ⟨directories, entries, name, entry, rfl, here, unignored, member, plain, leads, extension⟩ := h
  obtain ⟨_, there, isDirectory⟩ := below.exists_of_get? here
  obtain ⟨others, rfl⟩ := eq_directory_of_outline isDirectory
  obtain ⟨twin, found, alike⟩ := below.exists_of_get? ((get?_snoc_eq_some sound here).mpr member)
  refine ⟨directories, others, name, twin, rfl, there, unignored, (get?_snoc_eq_some sound' there).mp found,
    ?_, ?_, extension⟩
  · cases entry <;> cases twin <;> simp_all [outline, Entry.isDirectory]
  · rintro target rfl
    rw [← leadsToDirectory_eq_of_sameOutline same]
    cases entry with
    | link written => exact leads written rfl
    | _ => cases alike

end Entry

theorem Listing.foldl_add (paths : List Path) (listing : Listing) :
    paths.foldl add listing = ⟨listing.files ++ paths, listing.count + paths.length⟩ := by
  induction paths generalizing listing with
  | nil => simp
  | cons path paths ih =>
      simp only [List.foldl_cons, ih, add, List.append_assoc, List.singleton_append, List.length_cons]
      congr 1
      omega

namespace FileSystem

/-- The path is listed by a walk that starts at `start`. -/
def Lists (files : FileSystem) (options : WalkOptions) (start path : Path) : Prop :=
  ∃ top, files.root.openPath start = .ok top ∧ files.root.Lists options start top path

variable {files : FileSystem} {options : WalkOptions} {start : Path}

theorem listing_eq (files : FileSystem) (options : WalkOptions) (start : Path) :
    files.listing options start = ⟨files.walk options start, (files.walk options start).length⟩ := by
  simp [listing, Listing.foldl_add, Listing.empty]

theorem isWellFormed_of_openPath (sound : files.root.isWellFormed = true) {top : Entry}
    (opened : files.root.openPath start = .ok top) : top.isWellFormed = true := by
  obtain ⟨place, -, here⟩ := Entry.openPath_eq_ok.mp opened
  exact Entry.isWellFormed_get? sound here

theorem mem_walk (sound : files.root.isWellFormed = true) {path : Path} :
    path ∈ files.walk options start ↔ files.Lists options start path := by
  unfold walk Lists
  cases opened : files.root.openPath start with
  | error error => simp
  | ok top => simp [Entry.mem_walk (isWellFormed_of_openPath sound opened)]

theorem walk_ordered (sound : files.root.isWellFormed = true) :
    (files.walk options start).Pairwise Path.Before := by
  unfold walk
  cases opened : files.root.openPath start with
  | error error => exact .nil
  | ok top => exact Entry.walk_ordered (isWellFormed_of_openPath sound opened)

/-- Listed paths differ as they are written, too. -/
theorem walk_nodup (sound : files.root.isWellFormed = true) :
    ((files.walk options start).map Path.toString).Nodup := by
  have below {path : Path} (listed : path ∈ files.walk options start) :
      ∃ rest, path = start ++ rest ∧ rest ≠ [] ∧ ∀ name ∈ rest, isFileName name = true := by
    obtain ⟨top, opened, directories, entries, name, entry, rfl, here, -, member, -⟩ := (mem_walk sound).mp listed
    have top_sound := isWellFormed_of_openPath sound opened
    exact ⟨directories ++ [name], by simp, by simp, Entry.isFileName_of_get? top_sound
      ((Entry.get?_snoc_eq_some top_sound here).mpr member)⟩
  apply List.pairwise_map.mpr
  refine (walk_ordered sound).imp_of_mem ?_
  intro p q hp hq before same
  obtain ⟨rest, rfl, nonempty, proper⟩ := below hp
  obtain ⟨other, rfl, nonempty', proper'⟩ := below hq
  cases Path.eq_of_toString_append nonempty nonempty' proper proper' same
  exact before.asymm before

theorem Lists.of_sameOutline {other : FileSystem} (same : Entry.SameOutline files.root other.root)
    (sound : files.root.isWellFormed = true) (sound' : other.root.isWellFormed = true) {path : Path}
    (h : files.Lists options start path) : other.Lists options start path := by
  obtain ⟨top, opened, listed⟩ := h
  obtain ⟨counterpart, opened', below⟩ := Entry.exists_openPath_of_sameOutline same opened
  exact ⟨counterpart, opened', listed.of_sameOutline same below (isWellFormed_of_openPath sound opened)
    (isWellFormed_of_openPath sound' opened')⟩

theorem walk_eq_of_sameOutline {other : FileSystem} (same : Entry.SameOutline files.root other.root)
    (sound : files.root.isWellFormed = true) (sound' : other.root.isWellFormed = true)
    (options : WalkOptions) (start : Path) : files.walk options start = other.walk options start := by
  apply Path.eq_of_pairwise_before (walk_ordered sound) (walk_ordered sound')
  intro path
  rw [mem_walk sound, mem_walk sound']
  exact ⟨.of_sameOutline same sound sound', .of_sameOutline same.symm sound' sound⟩

end FileSystem

/-- A walk lists exactly the source files that can be reached through directories which are not ignored, each
once, files before the contents of subdirectories and both by name, and counts them. The order in which the
entries of the tree are kept does not show. -/
theorem walk_lists_sources (files : FileSystem) (sound : files.root.isWellFormed = true) (options : WalkOptions)
    (start : Path) :
    let listing := files.listing options start
    (∀ path, path ∈ listing.files ↔ files.Lists options start path) ∧
    (listing.files.map Path.toString).Nodup ∧
    listing.files.Pairwise Path.Before ∧
    listing.count = listing.files.length ∧
    (∀ other : FileSystem, Entry.Reordered files.root other.root → other.listing options start = listing) ∧
    ∀ name, FileName.extension name ∈ WalkOptions.default.extensions ↔
      ∃ stem, name = stem ++ ".sol" ∧ ∃ c ∈ stem.toList, c ≠ '.' := by
  intro listing
  have made : listing = ⟨files.walk options start, (files.walk options start).length⟩ :=
    files.listing_eq options start
  rw [made]
  refine ⟨fun path => FileSystem.mem_walk sound, FileSystem.walk_nodup sound, FileSystem.walk_ordered sound, rfl,
    ?_, fun name => FileName.mem_default_extensions⟩
  intro other reordered
  have same := FileSystem.walk_eq_of_sameOutline (reordered.sameOutline sound) sound (reordered.isWellFormed sound)
    options start
  rw [other.listing_eq, ← same]

theorem walk_lists_sources_links :
    let build := Entry.directory [("x.sol", .file [])]
    let files : FileSystem := ⟨.directory [("z.sol", .file []), ("build", build),
      ("lib", .directory [("..sol", .file []), ("a.sol", .link "nowhere")]), ("alias.sol", .link "lib")], []⟩
    let other : FileSystem := ⟨.directory [("alias.sol", .link "lib"),
      ("lib", .directory [("a.sol", .link "nowhere"), ("..sol", .file [])]), ("build", build), ("z.sol", .file [])], []⟩
    files.root.isWellFormed = true ∧ files.listing .default [] = ⟨[["z.sol"], ["lib", "a.sol"]], 2⟩ ∧
      files.Lists .default [] ["lib", "a.sol"] ∧ ¬ files.Lists .default [] ["alias.sol"] ∧
      Entry.Reordered files.root other.root ∧ other.listing .default [] = ⟨[["z.sol"], ["lib", "a.sol"]], 2⟩ := by
  intro build files other
  have sound : files.root.isWellFormed = true := by decide +kernel
  have made : files.listing .default [] = ⟨[["z.sol"], ["lib", "a.sol"]], 2⟩ := by decide +kernel
  have reordered : Entry.Reordered files.root other.root :=
    .directory (List.reverse_perm _).symm (.cons (.link _) (.cons
      (.directory (.swap _ _ _) (.cons (.link _) (.cons (.file _) .nil)))
      (.cons (.directory (.refl _) (.cons (.file _) .nil)) (.cons (.file _) .nil))))
  obtain ⟨listed, -, -, -, anyOrder, -⟩ := walk_lists_sources files sound .default []
  rw [made] at listed anyOrder
  refine ⟨sound, made, (listed _).mp (by decide), ?_, reordered, anyOrder other reordered⟩
  rw [← listed]
  decide

end ContractScan
