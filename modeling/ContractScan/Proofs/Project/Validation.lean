import ContractScan.Project.Scan
import ContractScan.Proofs.Project.Resolution
import ContractScan.Proofs.Project.Walk

/-! # Validated paths

The place that a written path resolves to is canonical: no link stands on it and it has no `.` or `..`. A canonical
path resolves to itself, so validating it again changes nothing, and what is found there depends only on the object
that the written path leads to. A link that leads back to itself spoils this: what comes after it is then taken as it is
written, so that links stay in it, and it may even start over from the root, with two slashes.
-/

namespace ContractScan

namespace Path

/-- None of the names has a slash in it. -/
def IsSplit (names : List String) : Prop :=
  ∀ name ∈ names, '/' ∉ name.toList

theorem isSplit_components (written : String) : IsSplit (components written) :=
  fun _ => not_mem_of_mem_components

theorem isSplit_parts (written : String) : IsSplit (parts written) :=
  fun name member => isSplit_components written name (List.mem_of_mem_filter member)

theorem isSplit_cons {name : String} {names : List String} :
    IsSplit (name :: names) ↔ '/' ∉ name.toList ∧ IsSplit names :=
  List.forall_mem_cons

theorem isFileName_iff {name : String} : isFileName name = true ↔ GoesDown name ∧ '/' ∉ name.toList := by
  simp [isFileName, GoesDown, and_assoc]

theorem isFileName_normalize {done : Path} (proper : ∀ name ∈ done, isFileName name = true) {names : List String}
    (split : IsSplit names) : ∀ name ∈ normalize done names, isFileName name = true := by
  induction names generalizing done with
  | nil => exact proper
  | cons name names ih =>
      obtain ⟨slashless, split⟩ := isSplit_cons.mp split
      rw [normalize]
      by_cases still : name = "" || name = "."
      · rw [if_pos still]
        exact ih proper split
      by_cases up : name = ".."
      · rw [if_neg still, if_pos up]
        exact ih (fun name member => proper name (List.dropLast_subset done member)) split
      rw [if_neg still, if_neg up]
      refine ih (List.forall_mem_append.mpr ⟨proper, List.forall_mem_singleton.mpr ?_⟩) split
      exact isFileName_iff.mpr ⟨⟨by simp_all, by simp_all, up⟩, slashless⟩

/-- The names of a path that has been made from a written one stand for themselves, after two slashes or one. -/
theorem isFileName_absolute (here : Path) (written : String) :
    ∃ names, (absolute here written = names ∨ absolute here written = "" :: names) ∧
      ∀ name ∈ names, isFileName name = true := by
  have proper : ∀ name ∈ ([] : Path), isFileName name = true := List.forall_mem_nil _
  refine ⟨_, ?_, isFileName_normalize proper (isSplit_components (join here.toString written))⟩
  unfold absolute
  dsimp only
  split
  · exact .inr rfl
  · exact .inl rfl

theorem isAbsolute_toString (path : Path) : isAbsolute path.toString = true := by
  unfold toString
  split <;> simp [isAbsolute]

/-- The names are read back from a path that has been written from the root on. -/
theorem parts_toString {path : Path} (proper : ∀ name ∈ path, isFileName name = true) :
    parts path.toString = path := by
  cases path with
  | nil => rfl
  | cons name path =>
      have pieces := splitOn_slash (List.cons_ne_nil name path) (not_mem_slash proper)
      have doubled : [] ++ name :: path ≠ [""] := append_ne_doubled (List.cons_ne_nil name path) proper
      rw [List.nil_append] at doubled
      have written : (toString (name :: path)).toList = '/' :: ['/'].intercalate ((name :: path).map String.toList) := by
        rw [toString_eq doubled, String.toList_append, String.toList_intercalate]
        rfl
      have cut : components (toString (name :: path)) = "" :: name :: path := by
        rw [components, written, List.splitOn_cons_eq_if_modifyHead, if_pos (by simp), pieces]
        simp
      rw [parts, cut, List.filter_cons_of_neg (by simp), List.filter_eq_self]
      intro name member
      obtain ⟨goes, -⟩ := isFileName_iff.mp (proper name member)
      simpa using ⟨goes.1, goes.2.1⟩

end Path

open ContractScan.Path

namespace Entry

variable {root : Entry} {depth : Nat} {here place : Path} {name : String} {names : List String}

/-- A path without links on it, each of whose names stands for itself. -/
structure Canonical (root : Entry) (place : Path) : Prop where
  proper : ∀ name ∈ place, isFileName name = true
  unlinked : ∀ start, start <+: place → root.Unlinked start

namespace Canonical

theorem nil (top : root.Unlinked []) : root.Canonical [] where
  proper := by simp
  unlinked start isStart := by
    rw [List.prefix_nil.mp isStart]
    exact top

theorem dropLast (h : root.Canonical place) : root.Canonical place.dropLast where
  proper name member := h.proper name (List.dropLast_subset place member)
  unlinked start isStart := h.unlinked start (isStart.trans (List.dropLast_prefix place))

theorem snoc (h : root.Canonical here) (proper : isFileName name = true) (plain : root.Unlinked (here ++ [name])) :
    root.Canonical (here ++ [name]) where
  proper := List.forall_mem_append.mpr ⟨h.proper, List.forall_mem_singleton.mpr proper⟩
  unlinked start isStart := by
    rcases List.prefix_concat_iff.mp isStart with rfl | isStart
    · exact plain
    · exact h.unlinked start isStart

theorem base (h : root.Canonical here) (written : String) : root.Canonical (base here written) := by
  unfold Path.base
  split
  · exact .nil (h.unlinked [] List.nil_prefix)
  · exact h

/-- What stands somewhere and is no link has no link on the way to it either. -/
theorem of_get? (sound : root.isWellFormed = true) {entry : Entry} (found : root.get? place = some entry)
    (plain : ∀ target, entry ≠ .link target) : root.Canonical place where
  proper := isFileName_of_get? sound found
  unlinked := by
    rintro start ⟨rest, rfl⟩ target isLink
    rw [get?_append, isLink, Option.bind_some] at found
    cases rest with
    | nil =>
        cases found
        exact plain target rfl
    | cons => cases found

/-- A canonical path leads to itself. -/
theorem resolves (h : root.Canonical (here ++ names)) : root.Resolves 0 here names (here ++ names) := by
  induction names generalizing here with
  | nil =>
      rw [List.append_nil]
      exact .done
  | cons name names ih =>
      rw [List.append_cons] at h ⊢
      have proper := h.proper name (by simp)
      exact .down (isFileName_iff.mp proper).1 (h.unlinked _ (List.prefix_append _ _)) (ih h)

/-- The file system goes straight to a canonical path. -/
theorem openWith_eq (h : root.Canonical (here ++ names)) {follow : Path → List String → Except OpenError Path}
    (reached : openWith root follow here names = .ok place) : place = here ++ names := by
  induction names generalizing here with
  | nil =>
      cases reached
      rw [List.append_nil]
  | cons name names ih =>
      rw [List.append_cons] at h ⊢
      have goes := (isFileName_iff.mp (h.proper name (by simp))).1
      have plain := h.unlinked (here ++ [name]) (List.prefix_append _ _)
      rw [openWith] at reached
      cases found : root.get? here with
      | none => simp [found] at reached
      | some entry =>
          cases entry with
          | directory entries =>
              simp only [found] at reached
              rw [if_neg (by simpa using ⟨goes.1, goes.2.1⟩), if_neg goes.2.2] at reached
              have next := get?_snoc found name
              cases below : entries.lookup name with
              | none => simp [below] at reached
              | some entry =>
                  rw [below] at next reached
                  cases entry with
                  | link target => exact (plain.not_link next).elim
                  | file | directory => exact ih h reached
          | _ => simp [found] at reached

theorem openPath_eq_ok (h : root.Canonical place) {entry : Entry} (opened : root.openPath place = .ok entry) :
    root.get? place = some entry := by
  obtain ⟨found, reached, here⟩ := Entry.openPath_eq_ok.mp opened
  have same : found = [] ++ place := openWith_eq (show root.Canonical ([] ++ place) from h) reached
  rwa [same] at here

end Canonical

/-- Following names from a canonical place leads to a canonical place. -/
theorem Resolves.canonical (h : root.Resolves depth here names place) (start : root.Canonical here)
    (split : IsSplit names) : root.Canonical place := by
  induction h with
  | done => exact start
  | stay _ _ ih => exact ih start (isSplit_cons.mp split).2
  | up _ ih => exact ih start.dropLast (isSplit_cons.mp split).2
  | down goes plain _ ih =>
      obtain ⟨slashless, split⟩ := isSplit_cons.mp split
      exact ih (start.snoc (isFileName_iff.mpr ⟨goes, slashless⟩) plain) split
  | @follow _ _ _ _ _ _ target _ _ _ _ _ _ ih ih' =>
      exact ih' (ih (start.base target) (isSplit_components target)) (isSplit_cons.mp split).2

end Entry

namespace FileSystem

variable {files : FileSystem} {written : String} {path place : Path}

def ResolvesTo (files : FileSystem) (written : String) (place : Path) : Prop :=
  ∃ depth, files.root.Resolves depth (base files.workingDirectory written) (parts written) place

def Meets (files : FileSystem) (written : String) (link : Path) : Prop :=
  files.root.Meets (base files.workingDirectory written) (parts written) link

/-- No link on the way of a written path leads back to itself. -/
def CanFollow (files : FileSystem) (written : String) : Prop :=
  ∀ link, files.Meets written link → ¬ files.root.Circular link

theorem ResolvesTo.unique {other : Path} (h : files.ResolvesTo written place) (h' : files.ResolvesTo written other) :
    place = other := by
  obtain ⟨depth, resolves⟩ := h
  obtain ⟨depth', resolves'⟩ := h'
  exact resolves.unique resolves'

theorem ResolvesTo.canFollow (h : files.ResolvesTo written place) : files.CanFollow written := by
  obtain ⟨depth, resolves⟩ := h
  intro link met
  exact resolves.not_circular met

/-- Where a written path starts. -/
theorem placeOf_start (files : FileSystem) (written : String) :
    files.placeOf (Spot.base ⟨.above 0, []⟩ written) = base files.workingDirectory written := by
  rw [placeOf_base]
  simp [placeOf, Spot.place]

/-- Resolving finds the place that a written path resolves to, unless a link on the way leads back to itself. -/
theorem resolve_cases (files : FileSystem) (written : String) :
    (∃ place, files.resolve written = .ok place ∧ files.ResolvesTo written place) ∨
      ∃ link, files.Meets written link ∧ files.root.Circular link := by
  rcases files.resolveFrom_cases (Spot.base ⟨.above 0, []⟩ written) (parts written) with
    ⟨depth, spot, ended, resolves⟩ | ⟨link, met, circular⟩
  · rw [placeOf_start] at resolves
    exact .inl ⟨files.placeOf spot, by simp only [resolve, ended], depth, resolves⟩
  · rw [placeOf_start] at met
    exact .inr ⟨link, met, circular⟩

theorem resolve_eq (h : files.ResolvesTo written place) : files.resolve written = .ok place := by
  rcases files.resolve_cases written with ⟨found, resolved, resolves⟩ | ⟨link, met, circular⟩
  · rw [resolved, resolves.unique h]
  · exact absurd circular (h.canFollow link met)

theorem exists_resolvesTo (follows : files.CanFollow written) : ∃ place, files.ResolvesTo written place := by
  rcases files.resolve_cases written with ⟨place, -, resolves⟩ | ⟨link, met, circular⟩
  · exact ⟨place, resolves⟩
  · exact absurd circular (follows link met)

/-- If resolving ended with this path, the written path resolves to it. -/
theorem resolvesTo_of_done {spot : Spot}
    (ended : (files.resolveFrom files.maxNesting [] (Spot.base ⟨.above 0, []⟩ written) (parts written)).1 =
      .done spot) : files.ResolvesTo written (files.placeOf spot) := by
  obtain ⟨resolves, -, -⟩ := resolveFrom_done .nil (Prod.ext ended rfl)
  rwa [placeOf_start] at resolves

theorem isFileName_resolve (start : files.root.Canonical files.workingDirectory)
    (resolved : files.resolve written = .ok path) :
    ∃ names, (path = names ∨ path = "" :: names) ∧ ∀ name ∈ names, isFileName name = true := by
  unfold resolve at resolved
  dsimp only at resolved
  split at resolved
  · rename_i spot ended
    cases resolved
    obtain ⟨depth, resolves⟩ := resolvesTo_of_done ended
    exact ⟨_, .inl rfl, (resolves.canonical (start.base written) (isSplit_parts written)).proper⟩
  · cases resolved
    exact isFileName_absolute _ _
  · cases resolved

theorem validate_eq_ok : files.validate written = .ok path ↔
    files.resolve written = .ok path ∧ ∃ entry, files.root.openPath path = .ok entry := by
  unfold validate
  cases resolved : files.resolve written with
  | error link => simp [bind, Except.bind, Except.mapError]
  | ok found =>
      simp only [bind, Except.bind, Except.mapError, Except.ok.injEq]
      constructor
      · intro valid
        cases opened : files.root.openPath found with
        | ok entry =>
            simp only [opened, Except.ok.injEq] at valid
            exact ⟨valid, entry, valid ▸ opened⟩
        | error error => cases error <;> simp [opened] at valid
      · rintro ⟨rfl, entry, opened⟩
        simp only [opened]

section Canonical

variable (start : files.root.Canonical files.workingDirectory)
include start

theorem ResolvesTo.canonical (h : files.ResolvesTo written place) : files.root.Canonical place := by
  obtain ⟨depth, resolves⟩ := h
  exact resolves.canonical (start.base written) (isSplit_parts written)

theorem validate_of_resolvesTo (sound : files.root.isWellFormed = true) (h : files.ResolvesTo written place)
    {entry : Entry} (found : files.root.get? place = some entry) : files.validate written = .ok place := by
  have plain : ∀ target, entry ≠ .link target := by
    rintro target rfl
    exact (h.canonical start).unlinked place (List.prefix_refl place) target found
  exact validate_eq_ok.mpr ⟨resolve_eq h, entry, Entry.openPath_of_get? sound found plain⟩

end Canonical

/-- Written from the root, a canonical path resolves to itself. -/
theorem resolvesTo_toString (canonical : files.root.Canonical path) : files.ResolvesTo path.toString path := by
  refine ⟨0, ?_⟩
  rw [base, if_pos (isAbsolute_toString path), parts_toString canonical.proper]
  exact (show files.root.Canonical ([] ++ path) from canonical).resolves

end FileSystem

/-- A validated path is absolute and leads to a file or a directory, and its names stand for themselves, except that it
may start with two slashes. If the links on the way of the written path can be followed, it has one slash at its start
and no link stands on it. Such a path is the path of what it leads to, and validating it gives the same path. Written
paths that resolve to the same place are validated alike. -/
theorem validate_canonical (files : FileSystem) (sound : files.root.isWellFormed = true)
    (entries : List (String × Entry)) (here : files.root.get? files.workingDirectory = some (.directory entries)) :
    (∀ written path, files.validate written = .ok path →
      Path.isAbsolute path.toString = true ∧
      (∃ names, (path = names ∨ path = "" :: names) ∧ ∀ name ∈ names, isFileName name = true) ∧
      (∃ entry, files.root.openPath path = .ok entry ∧ ∀ target, entry ≠ .link target) ∧
      (files.CanFollow written → files.ResolvesTo written path ∧ (∀ name ∈ path, isFileName name = true) ∧
        ∀ start, start <+: path → files.root.Unlinked start) ∧
      ((∀ name ∈ path, isFileName name = true) → (∀ start, start <+: path → files.root.Unlinked start) →
        (∃ entry, files.root.get? path = some entry ∧ ∀ target, entry ≠ .link target) ∧
        files.validate path.toString = .ok path)) ∧
    (∀ written, files.CanFollow written → ∃ place, files.ResolvesTo written place ∧
      ∀ entry, files.root.get? place = some entry → files.validate written = .ok place) ∧
    ∀ written other place, files.ResolvesTo written place → files.ResolvesTo other place →
      files.validate written = files.validate other ∧
      ∀ catalog path path', files.validate written = .ok path → files.validate other = .ok path' →
        files.scanTarget catalog path = files.scanTarget catalog path' := by
  have start := Entry.Canonical.of_get? sound here (by simp)
  have top : files.root.Unlinked [] := start.unlinked [] List.nil_prefix
  refine ⟨?_, ?_, ?_⟩
  · intro written path valid
    obtain ⟨resolved, entry, opened⟩ := FileSystem.validate_eq_ok.mp valid
    have plain : ∀ target, entry ≠ .link target := by
      rintro target rfl
      exact Entry.openPath_ne_link top _ target opened
    refine ⟨isAbsolute_toString _, FileSystem.isFileName_resolve start resolved, ⟨entry, opened, plain⟩, ?_, ?_⟩
    · intro follows
      obtain ⟨place, resolves⟩ := FileSystem.exists_resolvesTo follows
      cases resolved.symm.trans (FileSystem.resolve_eq resolves)
      have canonical := resolves.canonical start
      exact ⟨resolves, canonical.proper, canonical.unlinked⟩
    · intro proper unlinked
      have canonical : files.root.Canonical _ := ⟨proper, unlinked⟩
      have found := canonical.openPath_eq_ok opened
      exact ⟨⟨entry, found, plain⟩,
        FileSystem.validate_of_resolvesTo start sound (FileSystem.resolvesTo_toString canonical) found⟩
  · intro written follows
    obtain ⟨place, resolves⟩ := FileSystem.exists_resolvesTo follows
    exact ⟨place, resolves, fun entry found => FileSystem.validate_of_resolvesTo start sound resolves found⟩
  · intro written other place resolves resolves'
    have same : files.validate written = files.validate other := by
      rw [FileSystem.validate, FileSystem.validate, FileSystem.resolve_eq resolves, FileSystem.resolve_eq resolves']
    refine ⟨same, ?_⟩
    intro catalog path path' valid valid'
    rw [same, valid'] at valid
    rw [Except.ok.inj valid]

theorem validate_canonical_through_link :
    let files : FileSystem := ⟨.directory [("project", .directory [("l", .link "q/r"), ("loop", .link "loop"),
      ("q", .directory [("r", .directory [("s.sol", .file [])])])])], ["project"]⟩
    let place : Path := ["project", "q", "r", "s.sol"]
    files.root.isWellFormed = true ∧ files.CanFollow "l/../r//s.sol" ∧ files.ResolvesTo "./q/r/s.sol" place ∧
      files.validate "l/../r//s.sol" = .ok place ∧ (∀ start, start <+: place → files.root.Unlinked start) ∧
      files.validate "/project/q/r/s.sol" = .ok place ∧
      files.validate "l/../r//s.sol" = files.validate "./q/r/s.sol" := by
  intro files place
  have sound : files.root.isWellFormed = true := rfl
  have resolves : files.ResolvesTo "l/../r//s.sol" place :=
    FileSystem.resolvesTo_of_done (show _ = Resolution.done ⟨.above 0, ["q", "r", "s.sol"]⟩ by decide +kernel)
  have resolves' : files.ResolvesTo "./q/r/s.sol" place :=
    FileSystem.resolvesTo_of_done (show _ = Resolution.done ⟨.above 0, ["q", "r", "s.sol"]⟩ by decide +kernel)
  obtain ⟨returned, found, same⟩ := validate_canonical files sound _ rfl
  obtain ⟨_, resolves'', valid⟩ := found "l/../r//s.sol" resolves.canFollow
  cases resolves.unique resolves''
  have valid := valid (.file []) rfl
  obtain ⟨-, -, -, followed, canonical⟩ := returned _ _ valid
  obtain ⟨-, proper, unlinked⟩ := followed resolves.canFollow
  exact ⟨sound, resolves.canFollow, resolves', valid, unlinked, (canonical proper unlinked).2,
    (same _ _ place resolves resolves').1⟩

/-- After a link that leads back to itself names are taken as they are written, so that a path can be validated on
which a link stands, or one that starts with two slashes. Validating it once more gives another path. -/
theorem validate_keeps_names_after_loop :
    let files : FileSystem := ⟨.directory [("project", .directory [("a.sol", .file []), ("b.sol", .link "a.sol"),
      ("c.sol", .link "loop///project/a.sol"), ("loop", .link "loop")])], ["project"]⟩
    files.root.isWellFormed = true ∧
      (∃ entries, files.root.get? files.workingDirectory = some (.directory entries)) ∧
      files.validate "loop/../b.sol" = .ok ["project", "b.sol"] ∧
      files.root.get? ["project", "b.sol"] = some (.link "a.sol") ∧
      files.validate (Path.toString ["project", "b.sol"]) = .ok ["project", "a.sol"] ∧
      files.validate "c.sol" = .ok ["", "project", "a.sol"] ∧
      Path.toString ["", "project", "a.sol"] = "//project/a.sol" ∧
      files.validate "//project/a.sol" = .ok ["project", "a.sol"] :=
  ⟨rfl, ⟨_, rfl⟩, by decide +kernel, rfl, by decide +kernel, by decide +kernel, by decide +kernel,
    by decide +kernel⟩

end ContractScan
