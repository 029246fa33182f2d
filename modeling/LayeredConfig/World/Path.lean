/-!
# Paths

A path is a text whose components stand between slashes. The empty component and `.` stand for the
place reached so far, and `..` for the directory that holds it.
-/

namespace LayeredConfig.Path

/-- The components of a path, from its front; the empty text has one, which is empty. -/
def components (path : String) : List String := (path.toList.splitOn '/').map String.ofList

/-- Whether a path starts at the root of all directories. -/
def isAbsolute (path : String) : Bool := path.toList.head? = some '/'

/-- Whether a component leaves a path where it is. -/
def isHere (component : String) : Bool := component = "" || component = "."

/-- The path of an entry of a directory. -/
def join (directory entry : String) : String :=
  if directory.isEmpty || directory.toList.getLast? = some '/' then directory ++ entry
  else directory ++ "/" ++ entry

/-- The last component that names an entry, if the path ends with one. -/
def fileName? (path : String) : Option String :=
  match (components path).reverse.dropWhile isHere with
  | name :: _ => if name = ".." then none else some name
  | [] => none

/-- What follows the last dot of the file name, if anything stands before that dot. -/
def extension? (path : String) : Option String :=
  match fileName? path with
  | none => none
  | some name =>
    let (ending, stem) := name.toList.reverse.span (· ≠ '.')
    if stem.length ≤ 1 then none else some (String.ofList ending.reverse)

end LayeredConfig.Path
