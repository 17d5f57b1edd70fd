import ContractScan.Project.Lookup

/-!
# Walking a project

A walk lists the source files below a directory: those of the directory itself, ordered by name, then those
of its subdirectories, ordered by name. Ignored directories and links to directories are not entered.
-/

namespace ContractScan

structure WalkOptions where
  /-- Names of directories that are not entered. -/
  ignoredDirectories : List String
  /-- Extensions of the files that are listed. -/
  extensions : List String
  deriving Repr, DecidableEq

/-- Build products and dependencies are ignored, and Solidity sources are listed. -/
def WalkOptions.default : WalkOptions where
  ignoredDirectories :=
    ["node_modules", ".git", "artifacts", "cache", "out", "build", "coverage", "typechain-types"]
  extensions := [".sol"]

namespace FileName

/-- The part of a file name from its last dot on, unless nothing but dots stands before that. -/
def extension (name : String) : String :=
  let reversed := name.toList.reverse
  match reversed.dropWhile (· != '.') with
  | [] => ""
  | dot :: stem =>
    if stem.all (· == '.') then ""
    else String.ofList (dot :: (reversed.takeWhile (· != '.')).reverse)

/-- Names in the order of their code points. -/
def sort (names : List String) : List String :=
  names.mergeSort fun a b => a ≤ b

end FileName

namespace Entry

/-- An entry that stands at a path is a directory or leads to one. -/
def countsAsDirectory (root : Entry) (path : Path) : Entry → Bool
  | .directory _ => true
  | .link _ => root.leadsToDirectory path
  | .file _ => false

/-- The listed files of one directory, in order. -/
def listedFiles (root : Entry) (options : WalkOptions) (path : Path)
    (entries : List (String × Entry)) : List Path :=
  let listed := entries.filter fun (name, entry) =>
    !countsAsDirectory root (path ++ [name]) entry && options.extensions.contains (FileName.extension name)
  (FileName.sort (listed.map Prod.fst)).map fun name => path ++ [name]

/-- Lists by name, in order of the names. -/
def sortByName (lists : List (String × List Path)) : List (String × List Path) :=
  lists.mergeSort fun a b => a.1 ≤ b.1

mutual

/-- The listed files below a directory that stands at a path. -/
def walk (root : Entry) (options : WalkOptions) (path : Path) : Entry → List Path
  | .directory entries =>
    listedFiles root options path entries ++
      (sortByName (walkEntries root options path entries)).flatMap Prod.snd
  | _ => []

/-- The listed files below each subdirectory that is entered, by name. -/
def walkEntries (root : Entry) (options : WalkOptions) (path : Path) :
    List (String × Entry) → List (String × List Path)
  | [] => []
  | (name, .directory below) :: entries =>
    if options.ignoredDirectories.contains name then walkEntries root options path entries
    else (name, walk root options (path ++ [name]) (.directory below)) ::
      walkEntries root options path entries
  | _ :: entries => walkEntries root options path entries

end

end Entry

/-- The files that have been listed, and how many they are. -/
structure Listing where
  files : List Path
  count : Nat
  deriving Repr, DecidableEq

namespace Listing

def empty : Listing := ⟨[], 0⟩

def add (listing : Listing) (path : Path) : Listing :=
  ⟨listing.files ++ [path], listing.count + 1⟩

end Listing

namespace FileSystem

/-- The listed files below the directory that a path leads to; none if it leads to no directory. -/
def walk (files : FileSystem) (options : WalkOptions) (start : Path) : List Path :=
  match files.root.openPath start with
  | .ok entry => files.root.walk options start entry
  | .error _ => []

def listing (files : FileSystem) (options : WalkOptions) (start : Path) : Listing :=
  (files.walk options start).foldl Listing.add .empty

end FileSystem

end ContractScan
