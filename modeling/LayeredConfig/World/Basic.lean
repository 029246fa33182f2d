import LayeredConfig.Text.Utf8
import LayeredConfig.World.FileTree
import LayeredConfig.World.Path

/-!
# The world that sources read

Environment variables, and all files below the root with a place among them, the current directory, as
data. `readVariable`, `lookup` and `files` are the ways to read it; `setVariable`, `unsetVariable`, `write`
and `remove` change it.
-/

namespace LayeredConfig

/-- Environment variables with their bytes, the entries of the root directory, and the steps from there to
the current directory. -/
structure World where
  environment : Entries (List UInt8)
  root : Entries FileTree
  current : List String

/-- What reading a variable gives. -/
inductive World.Reading where
  | unset
  | notText
  | text (s : String)
deriving DecidableEq, Repr

/-- What a path leads to. A path is obstructed if it goes through a file or breaks a limit. -/
inductive World.Place where
  | missing
  | obstructed
  | found (tree : FileTree)

/-- Why the files of a directory cannot be listed. -/
inductive World.ListingFault where
  /-- The path leads to no directory. -/
  | notFound
  /-- The path leads to a directory, but the directory at this path below it cannot be opened. -/
  | unopened (path : String)
deriving DecidableEq, Repr

namespace World

/-- No variables, and nothing but a current directory without entries. -/
def empty : World := ⟨[], [("work", .empty)], ["work"]⟩

/-- Reads an environment variable. -/
def readVariable (w : World) (name : String) : Reading :=
  match Entries.get? name w.environment with
  | none => .unset
  | some bytes => match Text.Utf8.decode? bytes with
    | none => .notText
    | some s => .text s

/-- Sets an environment variable. -/
def setVariable (name : String) (bytes : List UInt8) (w : World) : World :=
  { w with environment := Entries.insert name bytes w.environment }

/-- Removes an environment variable. -/
def unsetVariable (name : String) (w : World) : World :=
  { w with environment := Entries.erase name w.environment }

/-! ## Files -/

/-- The number of bytes from which on a path is too long. -/
def pathLimit : Nat := 4096

/-- The greatest number of bytes of a component. -/
def nameLimit : Nat := 255

/-- Follows components from a place; `above` holds the directories around it, nearest first. Nothing is
around the outermost one, so `..` does not leave it. -/
def walk (above : List (Entries FileTree)) : FileTree → List String → Place
  | here, [] => .found here
  | .file _, _ :: _ => .obstructed
  | .directory entries, name :: rest =>
    if Path.isHere name then walk above (.directory entries) rest
    else if name = ".." then match above with
      | [] => walk [] (.directory entries) rest
      | parent :: above => walk above (.directory parent) rest
    else if nameLimit < name.utf8ByteSize then .obstructed
    else match Entries.get? name entries with
      | none => .missing
      | some child => walk (entries :: above) child rest

/-- The steps from the root to where a path is followed from. -/
def start (w : World) (path : String) : List String := if Path.isAbsolute path then [] else w.current

/-- What a path leads to. -/
def lookup (w : World) (path : String) : Place :=
  if path.toList.contains '\x00' then .obstructed
  else if path.isEmpty then .missing
  else if pathLimit ≤ path.utf8ByteSize then .obstructed
  else walk [] (.directory w.root) (w.start path ++ Path.components path)

mutual

/-- The paths of the files that are found at a path, or that of the first directory that cannot be opened,
since its path is too long. If the visit is not deep, no directory is opened. -/
def visit (deep : Bool) (path : String) : FileTree → Except String (List String)
  | .file _ => .ok [path]
  | .directory entries =>
    if !deep then .ok []
    else if pathLimit ≤ path.utf8ByteSize then .error path
    else visitEntries deep path entries

/-- The same for some entries of a directory, one after the other. -/
def visitEntries (deep : Bool) (directory : String) :
    List (String × FileTree) → Except String (List String)
  | [] => .ok []
  | (name, tree) :: entries => match visit deep (Path.join directory name) tree with
    | .error path => .error path
    | .ok files => match visitEntries deep directory entries with
      | .error path => .error path
      | .ok more => .ok (files ++ more)

end

/-- The paths of the files of a directory: of all below it, or only of its own. -/
def files (w : World) (path : String) (deep : Bool) : Except ListingFault (List String) :=
  match w.lookup path with
  | .found (.directory entries) => match visitEntries deep path entries with
    | .ok files => .ok files
    | .error below => .error (.unopened below)
  | _ => .error .notFound

/-- The steps from the root along a path, with `.` and `..` followed. -/
def steps (w : World) (path : String) : List String :=
  ((Path.components path).foldl (fun done name =>
    if Path.isHere name then done else if name = ".." then done.drop 1 else name :: done)
    (w.start path).reverse).reverse

/-- Writes a file or makes a directory, with the directories on the way. -/
def write (path : String) (tree : FileTree) (w : World) : World :=
  { w with root := (FileTree.insert tree (w.steps path) (.directory w.root)).entries }

/-- Removes a file, or a directory with all in it. -/
def remove (path : String) (w : World) : World :=
  { w with root := (FileTree.erase (w.steps path) (.directory w.root)).entries }

end World

end LayeredConfig
