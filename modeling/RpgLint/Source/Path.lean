import RpgLint.Text.Letters

/-!
# Paths

A path is a row of names with slashes between them.  Repeated slashes count as one, a slash at the
end counts for nothing, and neither does the name `.` unless the path begins with it.

## Main definitions

* `Path.names` — the names of a path; two paths with the same names are the same path.
* `Path.fileName?`, `Path.extension?` — the last name and what follows its last dot.
* `Path.join`, `Path.parent?` — the path of an entry of a directory, and the directory of an entry.
-/

namespace RpgLint.Path

/-- The root of all paths, as the first name of a path from there. -/
def root : String := "/"

/-- The names of a path.  A path from the root has the root as its first name. -/
def names (path : String) : List String :=
  match splitText '/' path with
  | [] => []
  | first :: others =>
    -- an empty first piece with others after it: the path begins with a slash
    let start := if !first.isEmpty then [first] else if others.isEmpty then [] else [root]
    start ++ others.filter fun name => !name.isEmpty && name != "."

/-- The path begins at the root. -/
def isAbsolute (path : String) : Bool := startsWith path "/"

/-- The last name of a path, unless the path ends at the root, here, or one directory up. -/
def fileName? (path : String) : Option String :=
  match (names path).getLast? with
  | some name => if name == root || name == "." || name == ".." then none else some name
  | none => none

/-- What follows the last dot of a file's name.  A dot at the start of the name does not count. -/
def extension? (path : String) : Option String :=
  match fileName? path with
  | none => none
  | some name =>
    let after := (name.toList.reverse.takeWhile (· != '.')).reverse
    -- no dot at all, or only the first character is one
    if name.toList.length ≤ after.length + 1 then none else some (String.ofList after)

/-- The path of an entry of a directory. -/
def join (directory name : String) : String :=
  if directory.isEmpty || isAbsolute name then name
  else if endsWith directory "/" then directory ++ name
  else directory ++ "/" ++ name

/-- The path with the given names. -/
def ofNames (names : List String) : String := names.foldl join ""

/-- The directory that holds the last name of a path of several names. -/
def parent? (path : String) : Option String :=
  match (names path).dropLast with
  | [] => none
  | names => some (ofNames names)

end RpgLint.Path
