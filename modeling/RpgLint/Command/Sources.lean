import RpgLint.Command.Basic
import RpgLint.Config.Codec
import RpgLint.Render.Terminal
import RpgLint.Source.Filter

/-!
# The sources of a command

Directories are searched for files that the filter takes for sources; other paths are read whatever
they are named.  A path that is named twice is read once.  A file that cannot be read is left out
with a warning.

## Main definitions

* `SourceInput` — standard input or a file.
* `collectSources` — the sources that are asked for.
* `readSources` — their texts.
-/

namespace RpgLint

/-- Where a source comes from. -/
inductive SourceInput
  | standardInput
  | file (path : String)
  deriving DecidableEq, Repr

namespace SourceInput

/-- The argument that stands for standard input. -/
def standardInputName : String := "-"

/-- The name in reports. -/
def displayName : SourceInput → String
  | standardInput => "<stdin>"
  | file path => path

/-- The sources are the same: paths are compared by their names. -/
def same : SourceInput → SourceInput → Bool
  | standardInput, standardInput => true
  | file a, file b => Path.names a == Path.names b
  | _, _ => false

end SourceInput

/-- A source with the name used in reports. -/
structure NamedSource where
  /-- The name. -/
  name : String
  /-- The text. -/
  text : String

/-- The items without those that are the same as an earlier one. -/
def dropRepeats {α : Type} (same : α → α → Bool) (items : List α) : List α :=
  (items.foldl (fun kept item => if kept.any (same item) then kept else item :: kept) []).reverse

variable {m : Type → Type} [Monad m] [Host m]

/-- A computation of a command. -/
abbrev CommandM (m : Type → Type) := ExceptT Failure m

/-- An outcome of a reader or checker that does not depend on the machine. -/
def settled {α : Type} (outcome : Except Failure α) : CommandM m α :=
  match outcome with
  | .ok value => return value
  | .error failure => throw failure

/-- What the machine did, where a fault is a failure to read or write. -/
def onDisk {α : Type} (action : m (Except Fault α)) : CommandM m α := do
  match ← (action : m _) with
  | .ok value => return value
  | .error fault => throw (.io fault)

/-- Shows a warning, unless only what is asked for is shown. -/
def warn (quiet : Bool) (warning : Diagnostic) : m Unit := do
  if quiet then return
  let coloured ← Host.errorShowsColours
  Host.printError (warning.render coloured)

/-- The sources that a path stands for. -/
def sourcesAt (filter : SourceFilter) (deep : Bool) (path : String) : m (List SourceInput) := do
  if path = SourceInput.standardInputName then return [.standardInput]
  if ← Host.isDirectory path then
    return ((← Host.filesUnder deep path).filter filter.includes).map .file
  return [.file path]

/-- The sources that are asked for, each once. -/
def collectSources (settings : ScannerSettings) (request : SourceRequest) :
    CommandM m (List SourceInput) := do
  let extensions := request.extensions.getD settings.extensions
  let filter ← settled (SourceFilter.of extensions (settings.exclude ++ request.exclude))
  let found ← request.paths.mapM fun path => (sourcesAt filter settings.recursive path : m _)
  return dropRepeats SourceInput.same found.flatten

/-- Standard input as text, if a source asks for it. -/
def readStandardInput (sources : List SourceInput) : CommandM m String := do
  if sources.contains .standardInput then
    return Utf8.decode (← onDisk Host.standardInput)
  return ""

/-- The text of a source, or a warning when it cannot be read. -/
def readSource (quiet : Bool) (input : String) (source : SourceInput) : m (Option NamedSource) := do
  match source with
  | .standardInput => return some ⟨source.displayName, input⟩
  | .file path =>
    match ← FileReader.readBytes path with
    | .ok bytes => return some ⟨source.displayName, Utf8.decode bytes⟩
    | .error fault =>
      warn quiet
        { heading := none, message := s!"Skipping unreadable file: {path}",
          detail := some fault.text }
      return none

/-- The texts of the sources that can be read. -/
def readSources (quiet : Bool) (sources : List SourceInput) : CommandM m (List NamedSource) := do
  let input ← readStandardInput sources
  return (← sources.mapM fun source => (readSource quiet input source : m _)).filterMap id

/-- The settings that hold for a command: those of the given file, or those that are found. -/
def loadSettings (noSettings : Bool) (path : Option String) : CommandM m Settings := do
  if noSettings then return {}
  match path with
  | some path => readSettings path
  | none =>
    let working ← (Host.workingDirectory : m _)
    let user ← (Host.settingsDirectory : m _)
    findSettings (settingsPlaces working user)

/-- Writes a text to a file, for which directories are made, or to standard output. -/
def writeOutput (path : Option String) (text : String) (quiet : Bool) : CommandM m Unit := do
  match path with
  | some path =>
    if let some parent := Path.parent? path then onDisk (Host.createDirectories parent)
    onDisk (Host.writeText path text)
  | none => if !quiet then (Host.print text : m Unit)

end RpgLint
