import RpgLint.Cli.Grammar
import RpgLint.Command.Run
import RpgLint.Pattern.Reader

/-!
# The program

The real machine as a host of commands, and the entry point.
-/

namespace RpgLint

/-- What an action gives, or the machine's words when it fails. -/
def attempt {α : Type} (action : IO α) : IO (Except Fault α) := do
  try return .ok (← action) catch error => return .error ⟨toString error⟩

/-- The paths of the files in a directory, by the order of their names. -/
partial def filesIn (deep : Bool) (directory : String) : IO (List String) := do
  let here ← IO.currentDir
  let entries ← try (here / directory).readDir catch _ => pure #[]
  let sorted := entries.toList.mergeSort fun a b => !(b.fileName < a.fileName)
  let found ← sorted.mapM fun entry => do
    let path := Path.join directory entry.fileName
    match (← entry.path.symlinkMetadata).type with
    | .file => return [path]
    | .dir => if deep then filesIn deep path else return []
    | _ => return []
  return found.flatten

instance : Host IO where
  pathExists path := do ((← IO.currentDir) / path).pathExists
  readBytes path := attempt (IO.FS.readBinFile path)
  isDirectory path := do ((← IO.currentDir) / path).isDir
  filesUnder := filesIn
  writeText path text := attempt (IO.FS.writeFile path text)
  createDirectories path := attempt (IO.FS.createDirAll path)
  workingDirectory := do
    try return some (← IO.currentDir).toString catch _ => return none
  settingsDirectory := do
    match ← IO.getEnv "XDG_CONFIG_HOME", ← IO.getEnv "HOME" with
    | some directory, _ => return some (Path.join directory programName)
    | none, some home => return some (Path.join (Path.join home ".config") programName)
    | none, none => return none
  standardInput := do attempt (← IO.getStdin).readBinToEnd
  print text := do (← IO.getStdout).putStr text
  printError text := do (← IO.getStderr).putStr text
  outputShowsColours := do
    return (← IO.getEnv "NO_COLOR").isNone && (← (← IO.getStdout).isTty)
  errorShowsColours := do
    return (← IO.getEnv "NO_COLOR").isNone && (← (← IO.getStderr).isTty)

/-- Shows what is wrong with a command line, or the help that is asked for. -/
def showUsage (error : Cli.UsageError) : IO Unit := do
  match error with
  | .helpWanted => IO.print commandLine.help
  | .nothingSaid => IO.eprint commandLine.help
  | .versionWanted => IO.println s!"{programName} {programVersion}"
  | error => IO.eprint s!"error: {error.message}\n\n{commandLine.usageLine}\n"

end RpgLint

/-- The entry point. -/
def main (arguments : List String) : IO UInt32 := do
  match RpgLint.Invocation.parse arguments with
  | .ok invocation => return (← RpgLint.run RpgLint.Pattern.engine invocation).toUInt32
  | .error error =>
    RpgLint.showUsage error
    return error.exitCode.toUInt32
