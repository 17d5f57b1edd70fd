import ContractScan.Project.Lookup
import Mathlib.Data.List.Basic

/-! # File trees by what stands where

A tree is a well-formed one if the names in each directory are distinct and can be parts of a path. Then what
stands at a path does not depend on the order in which the entries of the directories are kept. Neither does
where a path leads to: opening looks at names, at links and at what is a directory, so it cannot tell trees of
the same outline apart, whatever their files hold.
-/

namespace ContractScan

theorem lookup_eq_some_iff {α : Type} {entries : List (String × α)} (distinct : (entries.map Prod.fst).Nodup)
    {name : String} {entry : α} : entries.lookup name = some entry ↔ (name, entry) ∈ entries := by
  induction entries with
  | nil => simp
  | cons first entries ih =>
      obtain ⟨other, value⟩ := first
      simp only [List.map_cons, List.nodup_cons] at distinct
      by_cases same : name = other
      · subst same
        have once : (name, entry) ∉ entries := fun member => distinct.1 (List.mem_map.mpr ⟨_, member, rfl⟩)
        simp [once, eq_comm]
      · simp [List.lookup_cons, beq_false_of_ne same, ih distinct.2, same]

/-- A text that can name something in a directory. -/
def isFileName (name : String) : Bool :=
  name ≠ "" && name ≠ "." && name ≠ ".." && !name.toList.contains '/'

namespace Path

theorem toString_eq {path : Path} (h : path ≠ [""]) : toString path = "/" ++ "/".intercalate path :=
  if_neg h

theorem toList_toString {path : Path} (h : path ≠ []) (h' : path ≠ [""]) :
    (toString path).toList = path.flatMap fun name => '/' :: name.toList := by
  have slashed (name : String) (path : Path) : '/' :: ['/'].intercalate ((name :: path).map String.toList) =
      (name :: path).flatMap fun name => '/' :: name.toList := by
    induction path generalizing name with
    | nil => simp
    | cons next path ih =>
        rw [List.flatMap_cons, ← ih next, List.map_cons, List.map_cons, List.intercalate_cons_cons]
        simp
  cases path with
  | nil => exact absurd rfl h
  | cons name path =>
      rw [← slashed, toString_eq h', String.toList_append, String.toList_intercalate]
      rfl

/-- Names with slashes between them are told apart again. -/
theorem splitOn_slash {path : Path} (nonempty : path ≠ []) (names : ∀ name ∈ path, '/' ∉ name.toList) :
    (['/'].intercalate (path.map String.toList)).splitOn '/' = path.map String.toList := by
  apply List.splitOn_intercalate
  · simpa using names
  · simpa using nonempty

theorem not_mem_slash {path : Path} (proper : ∀ name ∈ path, isFileName name = true) :
    ∀ name ∈ path, '/' ∉ name.toList := by
  intro name member
  have fine := proper name member
  simp only [isFileName, Bool.and_eq_true] at fine
  simpa using fine.2

/-- A path that goes on below some place is not the root with two slashes. -/
theorem append_ne_doubled {start rest : Path} (nonempty : rest ≠ [])
    (proper : ∀ name ∈ rest, isFileName name = true) : start ++ rest ≠ [""] := by
  intro same
  obtain ⟨name, member⟩ := List.exists_mem_of_ne_nil rest nonempty
  have empty : name ∈ [""] := same ▸ List.mem_append_right start member
  have fine := proper name member
  rw [List.mem_singleton.mp empty] at fine
  exact absurd fine (by decide)

/-- Paths below the same place are written differently if they differ. -/
theorem eq_of_toString_append {start rest other : Path} (nonempty : rest ≠ []) (nonempty' : other ≠ [])
    (proper : ∀ name ∈ rest, isFileName name = true) (proper' : ∀ name ∈ other, isFileName name = true)
    (same : toString (start ++ rest) = toString (start ++ other)) : rest = other := by
  have apart : [] ++ rest ≠ [""] := append_ne_doubled nonempty proper
  have apart' : [] ++ other ≠ [""] := append_ne_doubled nonempty' proper'
  rw [List.nil_append] at apart apart'
  have written := congrArg String.toList same
  rw [toList_toString (by simp [nonempty]) (append_ne_doubled nonempty proper),
    toList_toString (by simp [nonempty']) (append_ne_doubled nonempty' proper'), List.flatMap_append,
    List.flatMap_append, List.append_cancel_left_eq, ← toList_toString nonempty apart,
    ← toList_toString nonempty' apart', toString_eq apart, toString_eq apart', String.toList_append,
    String.toList_append, List.append_cancel_left_eq, String.toList_intercalate, String.toList_intercalate] at written
  have slash : "/".toList = ['/'] := rfl
  have parts := congrArg (List.splitOn '/') written
  rw [slash, splitOn_slash nonempty (not_mem_slash proper), splitOn_slash nonempty' (not_mem_slash proper')] at parts
  exact List.map_injective_iff.mpr (fun _ _ => String.toList_injective) parts

end Path

namespace Entry

/-- What holds of every directory if it holds of its entries holds of everything. -/
theorem induction_on {P : Entry → Prop} (file : ∀ bytes, P (.file bytes)) (link : ∀ target, P (.link target))
    (directory : ∀ entries, (∀ name entry, (name, entry) ∈ entries → P entry) → P (.directory entries))
    (entry : Entry) : P entry := by
  induction entry using Entry.rec (motive_2 := fun entries => ∀ name entry, (name, entry) ∈ entries → P entry)
    (motive_3 := fun pair => P pair.2) with
  | file bytes => exact file bytes
  | link target => exact link target
  | directory entries ih => exact directory entries ih
  | nil name entry member => cases member
  | cons head tail ih ih' name entry member =>
      rcases List.mem_cons.mp member with rfl | member
      · exact ih
      · exact ih' name entry member
  | mk name entry ih => exact ih

mutual

/-- Names are distinct and proper in every directory. -/
def isWellFormed : Entry → Bool
  | .directory entries => (entries.map Prod.fst).Nodup && areWellFormed entries
  | _ => true

/-- The names are proper, and so are those below them. -/
def areWellFormed : List (String × Entry) → Bool
  | [] => true
  | (name, entry) :: entries => isFileName name && isWellFormed entry && areWellFormed entries

end

theorem areWellFormed_iff {entries : List (String × Entry)} : areWellFormed entries = true ↔
    ∀ item ∈ entries, isFileName item.1 = true ∧ item.2.isWellFormed = true := by
  induction entries with
  | nil => simp [areWellFormed]
  | cons first entries ih => simp only [areWellFormed, Bool.and_eq_true, ih, List.forall_mem_cons]

theorem isWellFormed_directory {entries : List (String × Entry)} :
    (directory entries).isWellFormed = true ↔ (entries.map Prod.fst).Nodup ∧
      ∀ item ∈ entries, isFileName item.1 = true ∧ item.2.isWellFormed = true := by
  rw [isWellFormed, Bool.and_eq_true, decide_eq_true_iff, areWellFormed_iff]

section

variable {root : Entry} {place : Path} {entries : List (String × Entry)} {name : String}

theorem get?_append (path rest : Path) (entry : Entry) :
    entry.get? (path ++ rest) = (entry.get? path).bind (get? rest) := by
  induction path generalizing entry with
  | nil => rfl
  | cons name path ih =>
      cases entry with
      | directory entries =>
          simp only [List.cons_append, get?]
          cases entries.lookup name with
          | none => rfl
          | some below => exact ih below
      | _ => rfl

theorem get?_snoc (here : root.get? place = some (.directory entries)) (name : String) :
    root.get? (place ++ [name]) = entries.lookup name := by
  rw [get?_append, here, Option.bind_some, get?]
  cases entries.lookup name <;> rfl

/-- What has something below it is a directory. -/
theorem exists_directory_of_get?_snoc {entry : Entry} (here : root.get? (place ++ [name]) = some entry) :
    ∃ entries, root.get? place = some (.directory entries) := by
  rw [get?_append] at here
  cases found : root.get? place with
  | none => simp [found] at here
  | some top =>
      cases top with
      | directory entries => exact ⟨entries, rfl⟩
      | _ => simp [found, get?] at here

theorem isWellFormed_get? (sound : root.isWellFormed = true) {entry : Entry}
    (here : root.get? place = some entry) : entry.isWellFormed = true := by
  induction place generalizing root with
  | nil =>
      cases here
      exact sound
  | cons name place ih =>
      cases root with
      | directory entries =>
          obtain ⟨distinct, below⟩ := isWellFormed_directory.mp sound
          rw [get?] at here
          obtain ⟨next, found, here⟩ := Option.bind_eq_some_iff.mp here
          exact ih (below _ ((lookup_eq_some_iff distinct).mp found)).2 here
      | _ => cases here

theorem isFileName_of_get? (sound : root.isWellFormed = true) {entry : Entry}
    (here : root.get? place = some entry) : ∀ name ∈ place, isFileName name = true := by
  induction place generalizing root with
  | nil => simp
  | cons name place ih =>
      cases root with
      | directory entries =>
          obtain ⟨distinct, below⟩ := isWellFormed_directory.mp sound
          rw [get?] at here
          obtain ⟨next, found, here⟩ := Option.bind_eq_some_iff.mp here
          obtain ⟨proper, sound⟩ := below _ ((lookup_eq_some_iff distinct).mp found)
          exact List.forall_mem_cons.mpr ⟨proper, ih sound here⟩
      | _ => cases here

theorem get?_snoc_eq_some (sound : root.isWellFormed = true)
    (here : root.get? place = some (.directory entries)) {entry : Entry} :
    root.get? (place ++ [name]) = some entry ↔ (name, entry) ∈ entries := by
  rw [get?_snoc here, lookup_eq_some_iff (isWellFormed_directory.mp (isWellFormed_get? sound here)).1]

end

/-- What can be told of an entry without a look at what it holds. -/
inductive Outline where
  | file
  | link (target : String)
  | directory

def outline : Entry → Outline
  | .file _ => .file
  | .link target => .link target
  | .directory _ => .directory

/-- At each path the two trees have entries of the same outline, or nothing. -/
def SameOutline (root other : Entry) : Prop :=
  ∀ place, (root.get? place).map outline = (other.get? place).map outline

namespace SameOutline

variable {root other : Entry} (same : SameOutline root other)

include same

theorem symm : SameOutline other root :=
  fun place => (same place).symm

theorem exists_of_get? {place : Path} {entry : Entry} (here : root.get? place = some entry) :
    ∃ counterpart, other.get? place = some counterpart ∧ counterpart.outline = entry.outline := by
  have there := same place
  rw [here, Option.map_some] at there
  exact Option.map_eq_some_iff.mp there.symm

theorem below {place : Path} {entry counterpart : Entry} (here : root.get? place = some entry)
    (there : other.get? place = some counterpart) : SameOutline entry counterpart := by
  intro path
  have below := same (place ++ path)
  rwa [get?_append, get?_append, here, there] at below

end SameOutline

theorem eq_directory_of_outline {entry : Entry} {entries : List (String × Entry)}
    (h : entry.outline = (directory entries).outline) : ∃ others, entry = .directory others := by
  cases entry with
  | directory others => exact ⟨others, rfl⟩
  | _ => cases h

/-- One step of opening a path, by what stands at the place and at the next one. -/
theorem openWith_cons (root : Entry) (follow : Path → List String → Except OpenError Path) (here : Path)
    (name : String) (names : List String) :
    openWith root follow here (name :: names) =
      match (root.get? here).map outline, (root.get? (here ++ [name])).map outline with
      | some .directory, next =>
        if name = "" || name = "." then openWith root follow here names
        else if name = ".." then openWith root follow here.dropLast names
        else match next with
          | none => .error .notFound
          | some (.link target) =>
            follow (if Path.isAbsolute target then [] else here) (Path.components target ++ names)
          | some _ => openWith root follow (here ++ [name]) names
      | _, _ => .error .notDirectory := by
  rw [openWith]
  cases found : root.get? here with
  | none => rfl
  | some top =>
      cases top with
      | directory entries =>
          rw [get?_snoc found]
          simp only [Option.map_some, outline]
          split
          · rfl
          · split
            · rfl
            · cases entries.lookup name with
              | none => rfl
              | some next => cases next <;> rfl
      | _ => rfl

theorem openWith_eq_of_sameOutline {root other : Entry} (same : SameOutline root other)
    (follow : Path → List String → Except OpenError Path) (here : Path) (names : List String) :
    openWith root follow here names = openWith other follow here names := by
  induction names generalizing here with
  | nil => rfl
  | cons name names ih => rw [openWith_cons, openWith_cons, same here, same (here ++ [name]), ih, ih, ih]

theorem openFrom_eq_of_sameOutline {root other : Entry} (same : SameOutline root other) (links : Nat)
    (here : Path) (names : List String) :
    openFrom root links here names = openFrom other links here names := by
  induction links generalizing here names with
  | zero => exact openWith_eq_of_sameOutline same _ here names
  | succ links ih =>
      have follow : openFrom root links = openFrom other links := by
        funext here names
        exact ih here names
      rw [openFrom, openFrom, follow]
      exact openWith_eq_of_sameOutline same _ here names

theorem openPath_eq_ok {root : Entry} {path : Path} {entry : Entry} :
    root.openPath path = .ok entry ↔
      ∃ place, root.openFrom maxLinks [] path = .ok place ∧ root.get? place = some entry := by
  unfold openPath
  cases root.openFrom maxLinks [] path with
  | error error => simp [bind, Except.bind]
  | ok place =>
      simp only [bind, Except.bind, Except.ok.injEq, exists_eq_left']
      cases root.get? place <;> simp

/-- In trees of the same outline a path leads to entries of the same outline. -/
theorem exists_openPath_of_sameOutline {root other : Entry} (same : SameOutline root other) {path : Path}
    {entry : Entry} (opened : root.openPath path = .ok entry) :
    ∃ counterpart, other.openPath path = .ok counterpart ∧ SameOutline entry counterpart := by
  obtain ⟨place, reached, here⟩ := openPath_eq_ok.mp opened
  obtain ⟨counterpart, there, -⟩ := same.exists_of_get? here
  rw [openFrom_eq_of_sameOutline same] at reached
  exact ⟨counterpart, openPath_eq_ok.mpr ⟨place, reached, there⟩, same.below here there⟩

theorem leadsToDirectory_iff {root : Entry} {path : Path} :
    root.leadsToDirectory path = true ↔ ∃ entries, root.openPath path = .ok (.directory entries) := by
  unfold leadsToDirectory
  split <;> simp_all

theorem leadsToDirectory_of_sameOutline {root other : Entry} (same : SameOutline root other) {path : Path}
    (leads : root.leadsToDirectory path = true) : other.leadsToDirectory path = true := by
  obtain ⟨entries, opened⟩ := leadsToDirectory_iff.mp leads
  obtain ⟨counterpart, opened, below⟩ := exists_openPath_of_sameOutline same opened
  obtain ⟨others, rfl⟩ := eq_directory_of_outline (Option.some.inj (below [])).symm
  exact leadsToDirectory_iff.mpr ⟨others, opened⟩

theorem leadsToDirectory_eq_of_sameOutline {root other : Entry} (same : SameOutline root other) (path : Path) :
    root.leadsToDirectory path = other.leadsToDirectory path := by
  rw [Bool.eq_iff_iff]
  exact ⟨leadsToDirectory_of_sameOutline same, leadsToDirectory_of_sameOutline same.symm⟩

mutual

/-- The same tree with the entries of its directories in another order. -/
inductive Reordered : Entry → Entry → Prop where
  | file (bytes : List UInt8) : Reordered (.file bytes) (.file bytes)
  | link (target : String) : Reordered (.link target) (.link target)
  | directory {entries moved others : List (String × Entry)} : entries.Perm moved →
      AllReordered moved others → Reordered (.directory entries) (.directory others)

/-- The same names in the same order, with trees below them that are reordered. -/
inductive AllReordered : List (String × Entry) → List (String × Entry) → Prop where
  | nil : AllReordered [] []
  | cons {name : String} {entry other : Entry} {entries others : List (String × Entry)} :
      Reordered entry other → AllReordered entries others →
      AllReordered ((name, entry) :: entries) ((name, other) :: others)

end

theorem lookup_eq_of_perm {entries moved : List (String × Entry)} (perm : entries.Perm moved)
    (distinct : (entries.map Prod.fst).Nodup) (name : String) : entries.lookup name = moved.lookup name := by
  have distinct' : (moved.map Prod.fst).Nodup := (perm.map Prod.fst).nodup_iff.mp distinct
  apply Option.ext
  intro entry
  rw [lookup_eq_some_iff distinct, lookup_eq_some_iff distinct', perm.mem_iff]

theorem AllReordered.names_eq {entries others : List (String × Entry)} (h : AllReordered entries others) :
    entries.map Prod.fst = others.map Prod.fst := by
  induction entries generalizing others with
  | nil =>
      cases h
      rfl
  | cons first entries ih =>
      cases h with
      | cons _ rest => rw [List.map_cons, List.map_cons, ih rest]

theorem AllReordered.exists_of_mem {entries others : List (String × Entry)} (h : AllReordered entries others)
    {name : String} {other : Entry} (member : (name, other) ∈ others) :
    ∃ entry, (name, entry) ∈ entries ∧ Reordered entry other := by
  induction entries generalizing others with
  | nil =>
      cases h
      cases member
  | cons first entries ih =>
      cases h with
      | cons same rest =>
          rcases List.mem_cons.mp member with here | member
          · cases here
            exact ⟨_, .head _, same⟩
          · obtain ⟨entry, member, same⟩ := ih rest member
            exact ⟨entry, .tail _ member, same⟩

theorem AllReordered.lookup_cases {entries others : List (String × Entry)} (h : AllReordered entries others)
    (name : String) : entries.lookup name = none ∧ others.lookup name = none ∨
      ∃ entry other, entries.lookup name = some entry ∧ others.lookup name = some other ∧
        Reordered entry other := by
  induction entries generalizing others with
  | nil =>
      cases h
      exact .inl ⟨rfl, rfl⟩
  | cons first entries ih =>
      cases h with
      | @cons key _ _ _ _ same rest =>
          by_cases here : name = key
          · subst here
            exact .inr ⟨_, _, List.lookup_cons_self, List.lookup_cons_self, same⟩
          · simpa only [List.lookup_cons, beq_false_of_ne here] using ih rest

theorem Reordered.isWellFormed {root other : Entry} (h : Reordered root other)
    (sound : root.isWellFormed = true) : other.isWellFormed = true := by
  induction root using induction_on generalizing other with
  | file bytes =>
      cases h
      exact sound
  | link target =>
      cases h
      exact sound
  | directory entries ih =>
      cases h with
      | directory perm rest =>
          obtain ⟨distinct, below⟩ := isWellFormed_directory.mp sound
          refine isWellFormed_directory.mpr ⟨?_, ?_⟩
          · rw [← rest.names_eq]
            exact (perm.map Prod.fst).nodup_iff.mp distinct
          · rintro ⟨name, other⟩ member
            obtain ⟨entry, moved, same⟩ := rest.exists_of_mem member
            have here := perm.mem_iff.mpr moved
            exact ⟨(below _ here).1, ih name entry here same (below _ here).2⟩

theorem Reordered.outline_eq {root other : Entry} (h : Reordered root other) : root.outline = other.outline := by
  cases h <;> rfl

/-- In which order entries are kept does not show at any path. -/
theorem Reordered.sameOutline {root other : Entry} (h : Reordered root other)
    (sound : root.isWellFormed = true) : SameOutline root other := by
  intro place
  induction place generalizing root other with
  | nil => exact congrArg some h.outline_eq
  | cons name place ih =>
      cases h with
      | directory perm rest =>
          obtain ⟨distinct, below⟩ := isWellFormed_directory.mp sound
          simp only [get?, lookup_eq_of_perm perm distinct]
          rcases rest.lookup_cases name with ⟨here, there⟩ | ⟨entry, other, here, there, same⟩
          · rw [here, there]
          · rw [here, there]
            rw [← lookup_eq_of_perm perm distinct] at here
            exact ih same (below _ ((lookup_eq_some_iff distinct).mp here)).2
      | _ => rfl

end Entry

end ContractScan
