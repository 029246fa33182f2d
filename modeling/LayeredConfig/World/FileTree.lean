import LayeredConfig.Entries

/-!
# File trees

A tree of directories with files as its leaves, and its changes at the end of some steps, each the name
of an entry.
-/

namespace LayeredConfig

/-- A file with its bytes, or a directory with its entries in name order. -/
inductive FileTree where
  | file (bytes : List UInt8)
  | directory (entries : List (String × FileTree))

namespace FileTree

/-- The directory without entries. -/
def empty : FileTree := directory []

/-- The entries of a directory; a file has none. -/
def entries : FileTree → Entries FileTree
  | file _ => []
  | directory entries => entries

/-- Puts a tree at the end of some steps. Directories on the way are made where they are missing,
and a directory that is put where one already stands changes nothing. -/
def insert (tree : FileTree) : List String → FileTree → FileTree
  | [], old => match tree, old with
    | directory [], directory entries => directory entries
    | _, _ => tree
  | name :: steps, old =>
    let child := (Entries.get? name old.entries).getD empty
    directory (Entries.insert name (insert tree steps child) old.entries)

/-- Removes what stands at the end of some steps. -/
def erase : List String → FileTree → FileTree
  | [], _ => empty
  | [name], old => directory (Entries.erase name old.entries)
  | name :: steps, old => match Entries.get? name old.entries with
    | none => old
    | some child => directory (Entries.insert name (erase steps child) old.entries)

end FileTree

end LayeredConfig
