import ContractScan.Project.Tree
import ContractScan.Text.Quoted
import ContractScan.Text.Utf8

/-!
# Opening files

Opening a path follows the links on it. A path that leads nowhere, that goes on below a file, or that has
too many links on it cannot be opened.
-/

namespace ContractScan

open Text

/-- Why a path cannot be opened. -/
inductive OpenError where
  | notFound
  | notDirectory
  | isDirectory
  | tooManyLinks
  deriving Repr, DecidableEq

namespace OpenError

def number : OpenError → Nat
  | .notFound => 2
  | .notDirectory => 20
  | .isDirectory => 21
  | .tooManyLinks => 40

def reason : OpenError → String
  | .notFound => "No such file or directory"
  | .notDirectory => "Not a directory"
  | .isDirectory => "Is a directory"
  | .tooManyLinks => "Too many levels of symbolic links"

def message (error : OpenError) (path : Path) : String :=
  "[Errno " ++ toString error.number ++ "] " ++ error.reason ++ ": " ++ quoted path.toString

end OpenError

namespace Entry

/-- Goes down from the place `here`, which has no links on it. `follow` goes on after a link, from the place
where its target starts. -/
def openWith (root : Entry) (follow : Path → List String → Except OpenError Path) :
    (here : Path) → (names : List String) → Except OpenError Path
  | here, [] => .ok here
  | here, name :: names =>
    match root.get? here with
    | some (.directory entries) =>
      if name = "" || name = "." then openWith root follow here names
      else if name = ".." then openWith root follow here.dropLast names
      else match entries.lookup name with
        | none => .error .notFound
        | some (.link target) =>
          follow (if Path.isAbsolute target then [] else here) (Path.components target ++ names)
        | some _ => openWith root follow (here ++ [name]) names
    | _ => .error .notDirectory

/-- The place that a path leads to from `here`, passing at most so many links. -/
def openFrom (root : Entry) : (links : Nat) → (here : Path) → (names : List String) →
    Except OpenError Path
  | 0 => openWith root fun _ _ => .error .tooManyLinks
  | links + 1 => openWith root (openFrom root links)

/-- How many links may be passed on the way to one file. -/
def maxLinks : Nat := 40

/-- What a path leads to. -/
def openPath (root : Entry) (path : Path) : Except OpenError Entry := do
  let place ← root.openFrom maxLinks [] path
  match root.get? place with
  | some entry => .ok entry
  | none => .error .notFound

def leadsToDirectory (root : Entry) (path : Path) : Bool :=
  match root.openPath path with
  | .ok (.directory _) => true
  | _ => false

def leadsToFile (root : Entry) (path : Path) : Bool :=
  match root.openPath path with
  | .ok (.file _) => true
  | _ => false

def readSource (root : Entry) (path : Path) : Except OpenError String := do
  match ← root.openPath path with
  | .file bytes => .ok (Utf8.readText bytes)
  | _ => .error .isDirectory

end Entry

end ContractScan
