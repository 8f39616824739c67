import RpgLint.Cli.Arguments
import RpgLint.Command.Basic
import RpgLint.Config.Basic

/-!
# The command line of the program

## Main definitions

* `commandLine` — its grammar.
* `Invocation.ofArguments?` — what a command line asks for.
* `Invocation.parse` — what arguments ask for.
-/

namespace RpgLint

open Cli

/-- An option without a value. -/
def flagOption (name : String) (letter : Option Char) : Parameter :=
  { name := name, letter := letter, usage := .flag }

/-- An option with a value. -/
def valueOption (name : String) (letter : Option Char) (form : ValueForm) : Parameter :=
  { name := name, letter := letter, usage := .single form }

/-- An option that collects values. -/
def listOption (name : String) (letter : Option Char) (commas : Bool) : Parameter :=
  { name := name, letter := letter, usage := .many .text commas }

/-- The number that digits write behind a value, if it fits into 64 bits.  The first character that
makes this impossible decides what is said. -/
def readDigits (value : Nat) : List Char → Except String Nat
  | [] => .ok value
  | c :: cs =>
    let next := 10 * value + (c.toNat - '0'.toNat)
    if !isAsciiDigit c then .error "invalid digit found in string"
    else if 0x10000000000000000 ≤ next then .error "number too large to fit in target type"
    else readDigits next cs

/-- The number that a text writes, with a plus sign or without. -/
def readCount (text : String) : Except String Nat :=
  match text.toList with
  | [] => .error "cannot parse integer from empty string"
  | ['+'] => .error "invalid digit found in string"
  | '+' :: rest => readDigits 0 rest
  | cs => readDigits 0 cs

/-- The form of the values that a function reads. -/
def readWith {α : Type} (read : String → Except String α) : ValueForm :=
  .readBy fun text =>
    match read text with
    | .ok _ => none
    | .error reason => some reason

/-- The words for the colour choices. -/
def colourWords : List (String × ColourChoice) :=
  [("auto", .auto), ("always", .always), ("never", .never)]

/-- The colour choice of a word. -/
def ColourChoice.ofWord? (word : String) : Option ColourChoice :=
  colourWords.lookup word

/-- Options of all commands. -/
def commonOptions : List Parameter :=
  [{ name := "verbose", letter := some 'v', usage := .counted },
    flagOption "quiet" (some 'q'),
    valueOption "color" none (.oneOf (colourWords.map Prod.fst)),
    flagOption "no-config" none,
    { name := "help", letter := some 'h', usage := .help }]

/-- Files and directories to read. -/
def pathsArgument : Parameter := { name := "paths", usage := .many .path false }

/-- A positional parameter that has to be given. -/
def requiredArgument (name : String) (form : ValueForm) : Parameter :=
  { name := name, usage := .single form, isRequired := true }

/-- The command that checks sources. -/
def checkGrammar : Grammar :=
  { name := "check"
    options := commonOptions ++
      [valueOption "config" (some 'c') .path,
        valueOption "level" (some 'l') (readWith Level.vocabulary.read),
        valueOption "format" (some 'f') (readWith ReportFormat.vocabulary.read),
        valueOption "output" (some 'o') .path,
        flagOption "dbcs" none,
        valueOption "max-line-length" none (readWith readCount),
        valueOption "custom-rules" none .path,
        listOption "disable" none true,
        valueOption "only" none (readWith Scope.vocabulary.read),
        listOption "exclude" (some 'x') false,
        listOption "ext" none true,
        flagOption "warn-only" none,
        flagOption "warnings-as-errors" none]
    argument := some pathsArgument }

/-- The command that counts lines. -/
def statisticsGrammar : Grammar :=
  { name := "stats"
    options := commonOptions ++
      [valueOption "config" (some 'c') .path,
        valueOption "format" (some 'f') (readWith StatisticsFormat.vocabulary.read),
        valueOption "output" (some 'o') .path,
        listOption "exclude" (some 'x') false,
        listOption "ext" none true]
    argument := some pathsArgument }

/-- Options of the commands on rules. -/
def rulesOptions : List Parameter := commonOptions ++ [valueOption "file" none .path]

/-- A command on the rule with an id. -/
def ruleIdGrammar (name : String) : Grammar :=
  { name := name, options := rulesOptions, argument := some (requiredArgument "id" .text) }

/-- The command that adds a rule. -/
def ruleAddGrammar : Grammar :=
  { name := "add"
    options := rulesOptions ++
      [valueOption "pattern" none .text,
        { valueOption "message" none .text with isRequired := true },
        valueOption "name" none .text,
        valueOption "description" none .text,
        valueOption "category" none (readWith Category.vocabulary.read),
        valueOption "severity" none (readWith Severity.vocabulary.read),
        valueOption "suggestion" none .text,
        flagOption "disabled" none]
    argument := some (requiredArgument "id" .text) }

/-- The commands on rules. -/
def rulesGrammar : Grammar :=
  { name := "rules"
    options := rulesOptions
    commands :=
      [{ name := "list", options := rulesOptions },
        ruleIdGrammar "show", ruleAddGrammar, ruleIdGrammar "remove", ruleIdGrammar "enable",
        ruleIdGrammar "disable",
        { name := "export", options := rulesOptions ++ [valueOption "output" (some 'o') .path] },
        { name := "import", options := rulesOptions ++ [flagOption "merge" none]
          argument := some (requiredArgument "source" .path) },
        { name := "reset", options := rulesOptions }] }

/-- The command that writes a settings file. -/
def newSettingsGrammar : Grammar :=
  { name := "init"
    options := commonOptions ++ [valueOption "output" (some 'o') .path, flagOption "force" none] }

/-- Name of the program. -/
def programName : String := "rpgle-guard"

/-- Version of the program. -/
def programVersion : String := "0.1.0"

/-- The command line of the program. -/
def commandLine : Grammar :=
  { name := programName
    options := commonOptions ++ [{ name := "version", letter := some 'V', usage := .version }]
    commands := [checkGrammar, statisticsGrammar, rulesGrammar, newSettingsGrammar] }

/-- The value that a parameter is read as. -/
def readValue? {α : Type} (arguments : Arguments) (name : String)
    (read : String → Except String α) : Option α :=
  (arguments.value? name).bind fun text => (read text).toOption

/-- Which sources are asked for. -/
def SourceRequest.ofArguments (arguments : Arguments) : SourceRequest :=
  { paths := (arguments.values? "paths").getD ["."]
    exclude := arguments.values "exclude"
    extensions := arguments.values? "ext" }

/-- The check that is asked for. -/
def CheckRequest.ofArguments (arguments : Arguments) : CheckRequest :=
  { sources := .ofArguments arguments
    settings := arguments.value? "config"
    level := readValue? arguments "level" Level.vocabulary.read
    format := (readValue? arguments "format" ReportFormat.vocabulary.read).getD .text
    output := arguments.value? "output"
    doubleByte := arguments.has "dbcs"
    maxLineLength := readValue? arguments "max-line-length" readCount
    customRules := arguments.value? "custom-rules"
    disable := arguments.values "disable"
    scope := (readValue? arguments "only" Scope.vocabulary.read).getD .all
    policy :=
      { warnOnly := arguments.has "warn-only"
        warningsAsErrors := arguments.has "warnings-as-errors" } }

/-- The counts that are asked for. -/
def StatisticsRequest.ofArguments (arguments : Arguments) : StatisticsRequest :=
  { sources := .ofArguments arguments
    settings := arguments.value? "config"
    format := (readValue? arguments "format" StatisticsFormat.vocabulary.read).getD .text
    output := arguments.value? "output" }

/-- The rule that is to be added. -/
def Rule.ofArguments? (arguments : Arguments) : Option Rule := do
  let id ← arguments.value? "id"
  return {
    id := id
    name := (arguments.value? "name").getD id
    description := (arguments.value? "description").getD ""
    category := (readValue? arguments "category" Category.vocabulary.read).getD .bestPractice
    severity := (readValue? arguments "severity" Severity.vocabulary.read).getD .warning
    enabled := !arguments.has "disabled"
    pattern := arguments.value? "pattern"
    message := ← arguments.value? "message"
    suggestion := arguments.value? "suggestion" }

/-- What is to be done with the rules. -/
def RulesRequest.ofArguments? (command : String) (arguments : Arguments) : Option RulesRequest :=
  let id := arguments.value? "id"
  match command with
  | "list" => some (.action .list)
  | "show" => id.map fun id => .action (.display id)
  | "add" => (Rule.ofArguments? arguments).map fun rule => .action (.add rule)
  | "remove" => id.map fun id => .action (.remove id)
  | "enable" => id.map fun id => .action (.enable id)
  | "disable" => id.map fun id => .action (.disable id)
  | "export" =>
    match arguments.value? "output" with
    | some path => some (.exportTo path)
    | none => some (.action .exportFile)
  | "import" => (arguments.value? "source").map fun path => .importFile path (arguments.has "merge")
  | "reset" => some (.action .reset)
  | _ => none

/-- The command that is asked for. -/
def Command.ofArguments? (arguments : Arguments) : Option Command :=
  match arguments.commands with
  | ["check"] => some (.check (.ofArguments arguments))
  | ["stats"] => some (.statistics (.ofArguments arguments))
  | ["rules", command] =>
    (RulesRequest.ofArguments? command arguments).map (.rules (arguments.value? "file"))
  | ["init"] =>
    some (.newSettings ((arguments.value? "output").getD localSettingsName) (arguments.has "force"))
  | _ => none

namespace Invocation

/-- What a command line asks for. -/
def ofArguments? (arguments : Arguments) : Option Invocation :=
  (Command.ofArguments? arguments).map fun command =>
    { verbose := arguments.has "verbose"
      quiet := arguments.has "quiet"
      colour := ((arguments.value? "color").bind ColourChoice.ofWord?).getD .auto
      noSettings := arguments.has "no-config"
      command := command }

/-- What arguments ask for. -/
def parse (arguments : List String) : Except UsageError Invocation := do
  match ofArguments? (← commandLine.parse arguments) with
  | some invocation => return invocation
  | none => throw .missingCommand

end Invocation

end RpgLint
