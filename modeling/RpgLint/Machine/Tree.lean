import RpgLint.Machine.Host
import RpgLint.Text.Letters

/-!
# A machine as a value

Files and directories as a value, with what has been printed so far.  Commands run on it as they do
on a real machine, so that what they do can be computed and compared.

A place is the list of names from the root.  A path leads to a place only when every name on the way
stands for a directory; a slash or a dot at its end asks for a directory too.

## Main definitions

* `Tree` — the machine.
* `Tree.place?` — where a path leads.
* `Tree.filesUnder` — the files under a place, in order.
* `OnTree` — computations on the machine.
-/

namespace RpgLint

/-- Names from the root. -/
abbrev TreePlace := List String

/-- A machine with its files and what it has printed. -/
structure Tree where
  /-- The places of files, with their contents. -/
  files : List (TreePlace × ByteArray)
  /-- The places of directories.  The root is one without being listed. -/
  directories : List TreePlace
  /-- Where paths begin that do not begin at the root. -/
  workingPlace : TreePlace
  /-- The directory of the user's settings. -/
  settingsPath : Option String
  /-- Standard input. -/
  input : ByteArray
  /-- What has been printed on standard output. -/
  output : String := ""
  /-- What has been printed on standard error. -/
  errors : String := ""

namespace Tree

/-- The content of the file at a place. -/
def contentAt? (tree : Tree) (place : TreePlace) : Option ByteArray :=
  (tree.files.find? (·.1 == place)).map Prod.snd

/-- A directory stands at the place. -/
def hasDirectory (tree : Tree) (place : TreePlace) : Bool :=
  place.isEmpty || tree.directories.contains place

/-- The place after one more name of a path.  The place so far has to be a directory. -/
def stepTo (tree : Tree) (place : TreePlace) (name : String) : Option TreePlace :=
  if !tree.hasDirectory place then none
  else if name.isEmpty || name == "." then some place
  else if name == ".." then some place.dropLast
  else some (place ++ [name])

/-- The place that a path begins at. -/
def startOf (tree : Tree) (path : String) : TreePlace :=
  if Path.isAbsolute path then [] else tree.workingPlace

/-- The place that a path leads to, where a file or directory may stand or not. -/
def place? (tree : Tree) (path : String) : Option TreePlace :=
  if path.isEmpty then none else (splitText '/' path).foldlM tree.stepTo (tree.startOf path)

/-- The machine with a directory at the place. -/
def addDirectory (tree : Tree) (place : TreePlace) : Tree :=
  if tree.hasDirectory place then tree
  else { tree with directories := place :: tree.directories }

/-- The machine with a file of the given content at the place. -/
def addFile (tree : Tree) (place : TreePlace) (content : ByteArray) : Tree :=
  { tree with files := (place, content) :: tree.files.filter (·.1 != place) }

/-- The machine with directories at a place and on the way to it. -/
def addDirectories (tree : Tree) (place : TreePlace) : Tree :=
  (List.range (place.length + 1)).foldl
    (fun tree depth => tree.addDirectory (place.take depth)) tree

/-- What is said where a directory is in the way. -/
def directoryFault : Fault := ⟨"is a directory"⟩

/-- What is said where a file is in the way. -/
def fileFault : Fault := ⟨"not a directory"⟩

/-- The content of the file that a path leads to. -/
def readBytes (tree : Tree) (path : String) : Except Fault ByteArray :=
  match tree.place? path with
  | none => .error missingFault
  | some place =>
    match tree.contentAt? place with
    | some content => .ok content
    | none => .error (if tree.hasDirectory place then directoryFault else missingFault)

/-- The machine with the file that a path leads to written. -/
def writeText (tree : Tree) (path text : String) : Except Fault Tree :=
  match tree.place? path with
  | none => .error missingFault
  | some place =>
    if tree.hasDirectory place then .error directoryFault else .ok (tree.addFile place text.toUTF8)

/-- The machine with a directory made under a place, unless a file is in the way. -/
def makeDirectory (tree : Tree) (place : TreePlace) (name : String) :
    Except Fault (Tree × TreePlace) :=
  if name.isEmpty || name == "." then .ok (tree, place)
  else if name == ".." then .ok (tree, place.dropLast)
  else
    let next := place ++ [name]
    if (tree.contentAt? next).isSome then .error fileFault else .ok (tree.addDirectory next, next)

/-- The machine with the directories on the way of a path made. -/
def createDirectories (tree : Tree) (path : String) : Except Fault Tree :=
  let step := fun (reached : Tree × TreePlace) name => reached.1.makeDirectory reached.2 name
  ((splitText '/' path).foldlM step (tree, tree.startOf path)).map Prod.fst

/-- The first row of names does not come after the second: names are compared one by one. -/
def notAfter (a b : TreePlace) : Bool := !(b < a)

/-- The paths of the files under a directory, by the order of their names. -/
def filesUnder (tree : Tree) (deep : Bool) (path : String) : List String :=
  match tree.place? path with
  | none => []
  | some place =>
    let below := tree.files.filterMap fun (file, _) =>
      if place.isPrefixOf file then some (file.drop place.length) else none
    -- rows of names compare like a walk that visits entries by name and goes down before it goes on
    let found := below.filter fun names => !names.isEmpty && (deep || names.length == 1)
    (found.mergeSort notAfter).map fun names => names.foldl Path.join path

/-- The path leads to a file or directory. -/
def pathExists (tree : Tree) (path : String) : Bool :=
  match tree.place? path with
  | some place => (tree.contentAt? place).isSome || tree.hasDirectory place
  | none => false

/-- The path leads to a directory. -/
def isDirectory (tree : Tree) (path : String) : Bool :=
  match tree.place? path with
  | some place => tree.hasDirectory place
  | none => false

/-- A changed machine in place of the machine, or the fault that kept it from changing. -/
def commit (tree : Tree) : Except Fault Tree → Except Fault Unit × Tree
  | .ok changed => (.ok (), changed)
  | .error fault => (.error fault, tree)

end Tree

/-- A computation on a machine that is a value. -/
abbrev OnTree := StateM Tree

instance : Host OnTree where
  pathExists path := do return (← get).pathExists path
  readBytes path := do return (← get).readBytes path
  isDirectory path := do return (← get).isDirectory path
  filesUnder deep path := do return (← get).filesUnder deep path
  writeText path text := fun tree => tree.commit (tree.writeText path text)
  createDirectories path := fun tree => tree.commit (tree.createDirectories path)
  workingDirectory := do return some (Path.ofNames (Path.root :: (← get).workingPlace))
  settingsDirectory := do return (← get).settingsPath
  standardInput := do return .ok (← get).input
  print text := modify fun tree => { tree with output := tree.output ++ text }
  printError text := modify fun tree => { tree with errors := tree.errors ++ text }
  outputShowsColours := pure false
  errorShowsColours := pure false

end RpgLint
