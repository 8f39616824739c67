import RpgLint.Command.Sources
import RpgLint.Report.Check

/-!
# Checking and counting sources

## Main definitions

* `CheckRequest.overrideSettings` — the settings as the command line changes them.
* `runCheck` — checks sources and writes the reports.
* `runStatistics` — counts the lines of sources and writes the counts.
-/

namespace RpgLint

/-- The settings as the command line changes them. -/
def CheckRequest.overrideSettings (request : CheckRequest) (settings : CheckSettings) :
    CheckSettings :=
  { level := request.level.getD settings.level
    considerDoubleByte := request.doubleByte || settings.considerDoubleByte
    maxLineLength := request.maxLineLength.getD settings.maxLineLength
    disabledRules := settings.disabledRules ++ request.disable
    customRules := request.customRules <|> settings.customRules }

/-- What a check depends on, by the settings. -/
def CheckSettings.toOptions (settings : CheckSettings) (rules : List CompiledRule) : CheckOptions :=
  { level := settings.level
    limit := { max := settings.maxLineLength, inBytes := settings.considerDoubleByte }
    disabled := settings.disabledRules
    rules := rules }

/-- Path of the rule file. -/
def CheckSettings.rulesPath (settings : CheckSettings) : String :=
  settings.customRules.getD defaultRulesName

variable {m : Type → Type} [Monad m] [Host m]

/-- The rules of a file; without the file there are none. -/
def openRules (path : String) : CommandM m RuleFile := do
  let text ← if ← (FileReader.pathExists path : m Bool) then some <$> readText path else pure none
  settled (RuleStore.opened path text)

/-- The rules of a file that can run, with a warning for each of the others. -/
def loadRules (engine : PatternEngine) (quiet : Bool) (path : String) :
    CommandM m (List CompiledRule) := do
  let (compiled, failures) := compileRules engine (← openRules path).rules
  for failure in failures do
    (warn quiet failure.warning : m Unit)
  return compiled

/-- Output is coloured. -/
def isColoured (choice : ColourChoice) (output : Option String) : m Bool :=
  match output, choice with
  | some _, _ | none, .never => pure false
  | none, .always => pure true
  | none, .auto => Host.outputShowsColours

/-- Checks sources and writes the reports.  The answer is what the caller is told. -/
def runCheck (engine : PatternEngine) (invocation : Invocation) (request : CheckRequest) :
    CommandM m Nat := do
  let settings ← loadSettings invocation.noSettings request.settings
  let checkSettings := request.overrideSettings settings.check
  let rules ← loadRules engine invocation.quiet checkSettings.rulesPath
  let sources ← collectSources settings.scanner request.sources
  let texts ← readSources invocation.quiet sources
  let options := checkSettings.toOptions rules
  let reports := texts.map fun source => check options request.scope (some source.name) source.text
  let style : TextStyle :=
    { coloured := ← (isColoured invocation.colour request.output : m Bool)
      verbose := invocation.verbose }
  writeOutput request.output (renderReports request.format style reports) invocation.quiet
  return exitCode request.policy reports

/-- Counts the lines of sources and writes the counts. -/
def runStatistics (invocation : Invocation) (request : StatisticsRequest) : CommandM m Nat := do
  let settings ← loadSettings invocation.noSettings request.settings
  let sources ← collectSources settings.scanner request.sources
  let texts ← readSources invocation.quiet sources
  let files := texts.map fun source =>
    ({ path := source.name, counts := .of (classify source.text) } : FileStatistics)
  writeOutput request.output (renderStatistics request.format ⟨files⟩) invocation.quiet
  return 0

end RpgLint
