import RpgLint.Failure
import RpgLint.Source.Path
import RpgLint.Text.Utf8

/-!
# The machine that commands run on

Commands ask a machine to read and write files, to list directories, and to print.  What a machine
is stays open: commands run on a real one as well as on one that is a value.  The smallest machine
is a shelf of files with their paths, and nothing else.

## Main definitions

* `FileReader` — what the search for settings asks of a machine.
* `Host` — what commands ask of a machine.
* `readText` — a file as text.
* `Shelf`, `OnShelf` — files on a shelf, and computations that read them.
-/

namespace RpgLint

/-- A machine whose files can be read. -/
class FileReader (m : Type → Type) where
  /-- Something stands at the path. -/
  pathExists : String → m Bool
  /-- The content of the file at the path. -/
  readBytes : String → m (Except Fault ByteArray)

/-- A machine that commands run on. -/
class Host (m : Type → Type) extends FileReader m where
  /-- A directory stands at the path. -/
  isDirectory : String → m Bool
  /-- The paths of the files in a directory, by the order of their names.  With `deep` the
  directories in it are searched too, each at the place of its name. -/
  filesUnder : (deep : Bool) → String → m (List String)
  /-- Gives the file at the path a new content. -/
  writeText : String → String → m (Except Fault Unit)
  /-- Makes the directory at the path, and those above it. -/
  createDirectories : String → m (Except Fault Unit)
  /-- The directory that commands run in, if it can be told. -/
  workingDirectory : m (Option String)
  /-- The directory of the user's settings, if there is one. -/
  settingsDirectory : m (Option String)
  /-- All of standard input. -/
  standardInput : m (Except Fault ByteArray)
  /-- Writes to standard output. -/
  print : String → m Unit
  /-- Writes to standard error. -/
  printError : String → m Unit
  /-- Standard output shows colours. -/
  outputShowsColours : m Bool
  /-- Standard error shows colours. -/
  errorShowsColours : m Bool

variable {m : Type → Type} [Monad m]

/-- What is said of a file that holds no text. -/
def notTextFault : Fault := ⟨"stream did not contain valid UTF-8"⟩

/-- The text of a file. -/
def readText [FileReader m] (path : String) : ExceptT Failure m String := do
  match ← (FileReader.readBytes path : m _) with
  | .error fault => throw (.unreadable path fault)
  | .ok bytes =>
    match Utf8.decode? bytes with
    | some text => return text
    | none => throw (.unreadable path notTextFault)

/-! ### Files on a shelf -/

/-- Files with their paths. -/
abbrev Shelf := List (String × String)

/-- The text of the file at the path. -/
def Shelf.text? (shelf : Shelf) (path : String) : Option String :=
  (shelf.find? fun file => Path.names file.1 == Path.names path).map Prod.snd

/-- A computation that reads files on a shelf. -/
abbrev OnShelf := ReaderM Shelf

/-- What is said of a file that is not there. -/
def missingFault : Fault := ⟨"missing"⟩

instance : FileReader OnShelf where
  pathExists path := fun shelf => (shelf.text? path).isSome
  readBytes path := fun shelf =>
    match shelf.text? path with
    | some text => .ok text.toUTF8
    | none => .error missingFault

end RpgLint
