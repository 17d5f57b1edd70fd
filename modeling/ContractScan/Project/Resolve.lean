import ContractScan.Project.Lookup

/-!
# Resolving paths

A written path is resolved to the path of the same object from the root, without links and without `.` and
`..`. Links are followed name by name, so that `..` after a link leads to the parent of its target. Names
that do not exist stay, and `..` takes them away again.

A link is known by the path that has led to it. One that is come upon while its own target is being resolved
stops the resolution, and what has not been passed is then taken as it is written.
-/

namespace ContractScan

/-- Where a path that is being resolved starts. -/
inductive Origin where
  | root
  /-- So many levels above the working directory. -/
  | above (levels : Nat)
  deriving Repr, DecidableEq

/-- What has been reached, by the path that leads there without a link. -/
structure Spot where
  origin : Origin
  names : List String
  deriving Repr, DecidableEq

namespace Spot

/-- Where a written path starts that is read at a spot. -/
def base (here : Spot) (written : String) : Spot :=
  if Path.isAbsolute written then ⟨.root, []⟩ else here

def down (here : Spot) (name : String) : Spot :=
  ⟨here.origin, here.names ++ [name]⟩

/-- One level up; there is nothing above the root. -/
def up (here : Spot) : Spot :=
  match here.origin, here.names with
  | .above levels, [] => ⟨.above (levels + 1), []⟩
  | origin, names => ⟨origin, names.dropLast⟩

/-- The path of the spot below the root. -/
def place (workingDirectory : Path) (spot : Spot) : Path :=
  match spot.origin with
  | .root => spot.names
  | .above levels => workingDirectory.take (workingDirectory.length - levels) ++ spot.names

/-- The path as written. -/
def text (spot : Spot) : String :=
  match spot.origin with
  | .root => Path.toString spot.names
  | .above levels => "/".intercalate (List.replicate levels ".." ++ spot.names)

end Spot

/-- The links that have been come upon, latest first, with where they lead to once that is known. -/
abbrev Seen := List (Spot × Option Spot)

/-- Where resolving a path has led. -/
inductive Resolution where
  /-- All names have been passed. -/
  | done (spot : Spot)
  /-- A link leads to itself; this is the path to it, with what has not been passed. -/
  | stuck (written : String)
  /-- Links are nested without end. -/
  | endless (link : Spot)
  deriving Repr, DecidableEq

namespace Entry

mutual

def linkCount : Entry → Nat
  | .file _ => 0
  | .link _ => 1
  | .directory entries => linkCountList entries

def linkCountList : List (String × Entry) → Nat
  | [] => 0
  | (_, entry) :: entries => linkCount entry + linkCountList entries

end

end Entry

namespace FileSystem

def placeOf (files : FileSystem) (spot : Spot) : Path :=
  spot.place files.workingDirectory

/-- Resolves names from a spot. `follow` resolves the target of a link that stands in the directory `here`. -/
def resolveWith (files : FileSystem) (follow : Seen → (here : Spot) → (target : String) → Resolution × Seen) :
    Seen → (here : Spot) → (names : List String) → Resolution × Seen
  | seen, here, [] => (.done here, seen)
  | seen, here, name :: names =>
    if name = "" || name = "." then resolveWith files follow seen here names
    else if name = ".." then resolveWith files follow seen here.up names
    else
      let next := here.down name
      let rest := "/".intercalate names
      match files.root.get? (files.placeOf next) with
      | some (.link target) =>
        match seen.lookup next with
        | some (some spot) => resolveWith files follow seen spot names
        | some none => (.stuck (Path.join next.text rest), seen)
        | none =>
          match follow ((next, none) :: seen) here target with
          | (.done spot, seen) => resolveWith files follow ((next, some spot) :: seen) spot names
          | (.stuck written, seen) => (.stuck (Path.join written rest), seen)
          | (.endless link, seen) => (.endless link, seen)
      | _ => resolveWith files follow seen next names

/-- Resolves names from a spot, with links nested less than `fuel` deep. -/
def resolveFrom (files : FileSystem) : (fuel : Nat) → Seen → (here : Spot) → (names : List String) →
    Resolution × Seen
  | 0, seen, here, _ => (.endless here, seen)
  | fuel + 1, seen, here, names =>
    resolveWith files (fun seen here target =>
      resolveFrom files fuel seen (here.base target) (Path.components target)) seen here names

/-- How deep links can be nested. A link is followed under one path at a time, and it has three at most: from the
root, from the working directory, and from the highest directory above that to which the links lead. Only links that
lead above the root again and again have more. -/
def maxNesting (files : FileSystem) : Nat :=
  3 * files.root.linkCount + 1

/-- Resolves a written path from the working directory. An error is the place of a link that leads to itself without
end. -/
def resolve (files : FileSystem) (written : String) : Except Path Path :=
  let start := Spot.base ⟨.above 0, []⟩ written
  match (files.resolveFrom files.maxNesting [] start (Path.parts written)).1 with
  | .done spot => .ok (files.placeOf spot)
  | .stuck written => .ok (Path.absolute files.workingDirectory written)
  | .endless link => .error (files.placeOf link)

/-- Why a written path cannot be scanned. -/
inductive PathError where
  | missing (path : Path)
  /-- A link on the path leads to itself. -/
  | linkLoop (path : Path)
  /-- Links on the path are nested without end. -/
  | endless (path : Path)
  deriving Repr, DecidableEq

def PathError.message : PathError → String
  | .missing path => "Path does not exist: " ++ path.toString
  | .linkLoop path => "Symlink loop from " ++ Text.quoted path.toString
  | .endless path => "Links without end from " ++ Text.quoted path.toString

/-- The resolved form of a written path that leads to something. -/
def validate (files : FileSystem) (written : String) : Except PathError Path := do
  let path ← (files.resolve written).mapError .endless
  match files.root.openPath path with
  | .ok _ => .ok path
  | .error .tooManyLinks => .error (.linkLoop path)
  | .error _ => .error (.missing path)

end FileSystem

end ContractScan
