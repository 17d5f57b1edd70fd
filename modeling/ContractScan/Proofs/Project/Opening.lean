import ContractScan.Proofs.Project.Tree

/-! # What opening a path leads to

A path without links leads to what stands there, and no path leads to a link. Where it leads depends only on
the outline of the tree, so that writing to a file changes what is read from the paths that lead to it and
from no other.
-/

namespace ContractScan.Entry

open Text

variable {root : Entry} {place : Path}

theorem openWith_of_get? (sound : root.isWellFormed = true)
    (follow : Path → List String → Except OpenError Path) {here names : Path} {entry : Entry}
    (found : root.get? (here ++ names) = some entry) (plain : ∀ target, entry ≠ .link target) :
    openWith root follow here names = .ok (here ++ names) := by
  induction names generalizing here with
  | nil => rw [openWith, List.append_nil]
  | cons name names ih =>
      have proper := isFileName_of_get? sound found name (by simp)
      rw [List.append_cons] at found
      obtain ⟨next, there, below⟩ := Option.bind_eq_some_iff.mp ((get?_append _ _ root).symm.trans found)
      obtain ⟨entries, above⟩ := exists_directory_of_get?_snoc there
      have goes := ih found
      rw [List.append_assoc, List.singleton_append] at goes
      simp only [isFileName, Bool.and_eq_true, decide_eq_true_eq] at proper
      -- A name on the way stands for a directory, and the last one for the entry itself.
      have unlinked : ∀ target, next ≠ .link target := by
        rintro target rfl
        cases names with
        | nil =>
            cases below
            exact plain target rfl
        | cons _ _ => cases below
      rw [openWith_cons, above, there]
      cases next with
      | link target => exact absurd rfl (unlinked target)
      | file | directory => simpa [outline, proper] using goes

theorem openFrom_of_get? (sound : root.isWellFormed = true) (links : Nat) {entry : Entry}
    (found : root.get? place = some entry) (plain : ∀ target, entry ≠ .link target) :
    root.openFrom links [] place = .ok place := by
  cases links with
  | zero => exact openWith_of_get? sound _ found plain
  | succ links => exact openWith_of_get? sound _ found plain

theorem openPath_of_get? (sound : root.isWellFormed = true) {entry : Entry}
    (found : root.get? place = some entry) (plain : ∀ target, entry ≠ .link target) :
    root.openPath place = .ok entry :=
  openPath_eq_ok.mpr ⟨place, openFrom_of_get? sound maxLinks found plain, found⟩

def Unlinked (root : Entry) (place : Path) : Prop :=
  ∀ target, root.get? place ≠ some (.link target)

theorem Unlinked.of_directory {entries : List (String × Entry)}
    (here : root.get? place = some (.directory entries)) : root.Unlinked place := by
  intro target link
  rw [here] at link
  cases link

theorem Unlinked.dropLast {entries : List (String × Entry)}
    (here : root.get? place = some (.directory entries)) : root.Unlinked place.dropLast := by
  rcases place.eq_nil_or_concat' with rfl | ⟨above, name, rfl⟩
  · exact .of_directory here
  · obtain ⟨siblings, there⟩ := exists_directory_of_get?_snoc here
    rw [List.dropLast_concat]
    exact .of_directory there

theorem openWith_unlinked {follow : Path → List String → Except OpenError Path} (top : root.Unlinked [])
    (followed : ∀ here names place, root.Unlinked here → follow here names = .ok place → root.Unlinked place)
    {here : Path} (unlinked : root.Unlinked here) {names : Path}
    (reached : openWith root follow here names = .ok place) : root.Unlinked place := by
  induction names generalizing here with
  | nil =>
      cases reached
      exact unlinked
  | cons name names ih =>
      rw [openWith] at reached
      cases found : root.get? here with
      | none => simp [found] at reached
      | some entry =>
          cases entry with
          | directory entries =>
              simp only [found] at reached
              by_cases stays : name = "" || name = "."
              · rw [if_pos stays] at reached
                exact ih unlinked reached
              by_cases up : name = ".."
              · rw [if_neg stays, if_pos up] at reached
                exact ih (.dropLast found) reached
              rw [if_neg stays, if_neg up] at reached
              have next := get?_snoc found name
              cases below : entries.lookup name with
              | none => simp [below] at reached
              | some entry =>
                  rw [below] at next reached
                  cases entry with
                  | link target =>
                      refine followed _ _ _ ?_ reached
                      split
                      · exact top
                      · exact unlinked
                  | file | directory =>
                      refine ih ?_ reached
                      intro target link
                      cases next.symm.trans link
          | _ => simp [found] at reached

theorem openFrom_unlinked (top : root.Unlinked []) (links : Nat) {here names : Path}
    (unlinked : root.Unlinked here) (reached : root.openFrom links here names = .ok place) :
    root.Unlinked place := by
  induction links generalizing here names place with
  | zero => exact openWith_unlinked top (fun _ _ _ _ stuck => by cases stuck) unlinked reached
  | succ links ih => exact openWith_unlinked top (fun _ _ _ => ih) unlinked reached

theorem openPath_ne_link (top : root.Unlinked []) (path : Path) (target : String) :
    root.openPath path ≠ .ok (.link target) := by
  intro opened
  obtain ⟨place, reached, here⟩ := openPath_eq_ok.mp opened
  exact openFrom_unlinked top maxLinks top reached target here

theorem readSource_eq_ok {path : Path} {text : String} :
    root.readSource path = .ok text ↔
      ∃ bytes, root.openPath path = .ok (.file bytes) ∧ text = Utf8.readText bytes := by
  unfold readSource
  cases root.openPath path with
  | error error => simp [bind, Except.bind]
  | ok entry => cases entry <;> simp [bind, Except.bind, eq_comm]

theorem leadsToDirectory_of_readSource {path : Path} {text : String} (read : root.readSource path = .ok text) :
    root.leadsToDirectory path = false := by
  obtain ⟨bytes, opened, -⟩ := readSource_eq_ok.mp read
  rw [leadsToDirectory, opened]

def leaf? (root : Entry) (place : Path) : Option Entry :=
  (root.get? place).filter fun entry => !entry.isDirectory

theorem leaf?_eq_some {entry : Entry} :
    root.leaf? place = some entry ↔ root.get? place = some entry ∧ entry.isDirectory = false := by
  simp [leaf?, Option.filter_eq_some_iff]

def leadsTo (root : Entry) (path place : Path) : Bool :=
  match root.openFrom maxLinks [] path with
  | .ok found => found == place
  | .error _ => false

theorem leadsTo_iff {path : Path} :
    root.leadsTo path place = true ↔ root.openFrom maxLinks [] path = .ok place := by
  unfold leadsTo
  cases root.openFrom maxLinks [] path <;> simp

/-- The other tree has the bytes at the place, which is a file of this one, and differs nowhere else. -/
structure Rewritten (root other : Entry) (place : Path) (bytes : List UInt8) : Prop where
  outline : SameOutline root other
  written : other.get? place = some (.file bytes)
  elsewhere : ∀ path, path ≠ place → root.leaf? path = other.leaf? path

/-- Writing to a file shows at the paths that lead to it and at no other. -/
theorem Rewritten.readSource {other : Entry} {bytes : List UInt8} (h : Rewritten root other place bytes)
    (path : Path) : other.readSource path =
      if root.leadsTo path place then .ok (Utf8.readText bytes) else root.readSource path := by
  unfold Entry.readSource openPath leadsTo
  rw [← openFrom_eq_of_sameOutline h.outline]
  cases root.openFrom maxLinks [] path with
  | error error => rfl
  | ok found =>
      by_cases same : found = place
      · subst same
        simp [bind, Except.bind, h.written]
      -- The path ends elsewhere: at the same leaf in both trees, or at directories, which cannot be read.
      · have leaves := h.elsewhere found same
        have shapes := h.outline found
        unfold leaf? at leaves
        simp only [bind, Except.bind, beq_iff_eq, same, if_false]
        cases here : root.get? found with
        | none =>
            rw [here] at shapes
            rw [Option.map_eq_none_iff.mp shapes.symm]
        | some entry =>
            obtain ⟨twin, there, alike⟩ := h.outline.exists_of_get? here
            rw [here, there] at leaves
            rw [there]
            cases entry <;> cases twin <;> simp_all [Entry.outline, isDirectory, Option.filter]

theorem Rewritten.file (old bytes : List UInt8) : Rewritten (.file old) (.file bytes) [] bytes where
  outline := by
    intro path
    cases path <;> rfl
  written := rfl
  elsewhere := by
    intro path elsewhere
    cases path with
    | nil => exact absurd rfl elsewhere
    | cons name names => rfl

theorem Rewritten.directory {entry twin : Entry} {bytes : List UInt8} (h : Rewritten entry twin place bytes)
    (before after : List (String × Entry)) {name : String} (unused : before.lookup name = none) :
    Rewritten (.directory (before ++ (name, entry) :: after)) (.directory (before ++ (name, twin) :: after))
      (name :: place) bytes := by
  have same (entry : Entry) (path : Path) :
      (Entry.directory (before ++ (name, entry) :: after)).get? (name :: path) = entry.get? path := by
    simp [get?, List.lookup_append, unused]
  have elsewhere {other : String} (apart : other ≠ name) (path : Path) :
      (Entry.directory (before ++ (name, entry) :: after)).get? (other :: path) =
        (Entry.directory (before ++ (name, twin) :: after)).get? (other :: path) := by
    simp [get?, List.lookup_append, List.lookup_cons, beq_false_of_ne apart]
  constructor
  · intro path
    cases path with
    | nil => rfl
    | cons other path =>
        by_cases isName : other = name
        · rw [isName, same, same, h.outline path]
        · rw [elsewhere isName]
  · rw [same, h.written]
  · intro path apart
    cases path with
    | nil => rfl
    | cons other path =>
        by_cases isName : other = name
        · subst isName
          rw [leaf?, leaf?, same, same]
          exact h.elsewhere path fun isPlace => apart (congrArg _ isPlace)
        · rw [leaf?, leaf?, elsewhere isName]

end ContractScan.Entry
