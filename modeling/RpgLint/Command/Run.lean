import RpgLint.Command.Check
import RpgLint.Command.Grammar
import RpgLint.Config.Basic

/-!
# Running a command

## Main definitions

* `runRules` — an action on the rule file.
* `runNewSettings` — writes a settings file to start from.
* `run` — any command; a failure is shown.
-/

namespace RpgLint

variable {m : Type → Type} [Monad m] [Host m]

/-- Carries out an action on the rules of the file at a path, and gives the text to show. -/
def performAction (engine : PatternEngine) (path : String) (file : RuleFile)
    (action : RuleAction) : CommandM m String := do
  match ← settled (action.plan engine path file) with
  | .text text => return text
  | .change change confirm =>
    let (changed, answer) ← settled (file.change change)
    onDisk (Host.writeText path changed.exportText)
    return confirm answer

/-- Does with the rules of the file at a path what is asked for, and gives the text to show. -/
def performRequest (engine : PatternEngine) (path : String) (file : RuleFile)
    (request : RulesRequest) : CommandM m String := do
  match request with
  | .action action => performAction engine path file action
  | .importFile source merge =>
    performAction engine path file (.importText (← readText source) merge)
  | .exportTo target =>
    writeOutput (some target) file.exportedText false
    return file.exportNotice target

/-- The text is what is asked for, and not a confirmation. -/
def RulesRequest.showsResult : RulesRequest → Bool
  | .action .list | .action (.display _) | .action .exportFile => true
  | _ => false

/-- Does with the user's own rules what is asked for. -/
def runRules (engine : PatternEngine) (invocation : Invocation) (file : Option String)
    (request : RulesRequest) : CommandM m Nat := do
  let settings ← loadSettings invocation.noSettings none
  let path := file.getD settings.check.rulesPath
  let rules ← openRules path
  let text ← performRequest engine path rules request
  writeOutput none text (invocation.quiet && !request.showsResult)
  return 0

/-- Writes a settings file to start from. -/
def runNewSettings (path : String) (force : Bool) : CommandM m Nat := do
  if (← (FileReader.pathExists path : m Bool)) && !force then throw (.settingsExist path)
  onDisk (Host.writeText path settingsTemplate)
  (Host.print s!"Created configuration file: {path}\n" : m Unit)
  return 0

/-- What the caller is told of a failure. -/
def failureCode : Nat := 2

/-- Runs a command, with an engine for the patterns of rules.  The answer is what the caller is
told; a failure is shown. -/
def run (engine : PatternEngine) (invocation : Invocation) : m Nat := do
  let outcome ← (match invocation.command with
    | .check request => runCheck engine invocation request
    | .statistics request => runStatistics invocation request
    | .rules file request => runRules engine invocation file request
    | .newSettings path force => runNewSettings path force : CommandM m Nat).run
  match outcome with
  | .ok code => return code
  | .error failure =>
    let coloured ← Host.errorShowsColours
    Host.printError (failure.diagnostic.render coloured)
    return failureCode

end RpgLint
