/-!
# File trees

A file system as a value: directories, files and symbolic links. Paths are lists of names below the root.
-/

namespace ContractScan

/-- What stands under a name. -/
inductive Entry where
  | file (bytes : List UInt8)
  /-- A symbolic link, with the path it leads to as written. -/
  | link (target : String)
  /-- A directory; names are distinct. -/
  | directory (entries : List (String × Entry))
  deriving Inhabited

/-- A path below the root. An empty name stands at most at the start: such a path is written with two slashes
and leads to the same place as without it. -/
abbrev Path := List String

namespace Path

/-- The path as written from the root on. -/
def toString (path : Path) : String :=
  if path = [""] then "//" else "/" ++ "/".intercalate path

/-- The names in a written path, including empty ones. -/
def components (written : String) : List String :=
  (written.toList.splitOn '/').map String.ofList

def isAbsolute (written : String) : Bool :=
  written.toList.head? == some '/'

/-- The names in a written path without empty ones and without `.`; `..` stays. -/
def parts (written : String) : List String :=
  (components written).filter fun name => name ≠ "" && name ≠ "."

/-- A written path from a place on. -/
def below (here : Path) (written : String) : Path :=
  (if isAbsolute written then [] else here) ++ parts written

/-- One written path after the other. A second path that starts at the root stands alone. -/
def join (first second : String) : String :=
  if isAbsolute second then second
  else if first = "" || first.toList.getLast? == some '/' then first ++ second
  else first ++ "/" ++ second

/-- Takes away empty names and `.`, and each `..` with the name before it. -/
def normalize : (done : Path) → (names : List String) → Path
  | done, [] => done
  | done, name :: names =>
    if name = "" || name = "." then normalize done names
    else if name = ".." then normalize done.dropLast names
    else normalize (done ++ [name]) names

/-- The written path starts with two slashes and no more. -/
def hasTwoSlashes (written : String) : Bool :=
  match written.toList with
  | '/' :: '/' :: '/' :: _ => false
  | '/' :: '/' :: _ => true
  | _ => false

/-- The path of a written one that is read at a place, without looking at what stands there. Two slashes at the
start stay, any other number of them is one. -/
def absolute (here : Path) (written : String) : Path :=
  let full := join here.toString written
  let names := normalize [] (components full)
  if hasTwoSlashes full then "" :: names else names

end Path

namespace Entry

/-- What stands at a path, without following links. -/
def get? : Path → Entry → Option Entry
  | [], entry => some entry
  | name :: rest, .directory entries => (entries.lookup name).bind (get? rest)
  | _ :: _, _ => none

def isDirectory : Entry → Bool
  | .directory _ => true
  | _ => false

end Entry

/-- A file system and the directory in which the program runs. -/
structure FileSystem where
  /-- The root directory. -/
  root : Entry
  /-- The working directory. -/
  workingDirectory : Path
  deriving Inhabited

end ContractScan
