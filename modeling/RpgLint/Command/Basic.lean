import RpgLint.Check.Level
import RpgLint.Render.Format
import RpgLint.Rule.Action

/-!
# Commands

What a user asks the program for.

## Main definitions

* `Invocation` — a command with the options that all commands have.
* `Command` — the commands.
-/

namespace RpgLint

/-- When output is coloured. -/
inductive ColourChoice
  /-- Where it is shown in colours. -/
  | auto
  | always
  | never
  deriving DecidableEq, Repr

/-- Which sources a command reads. -/
structure SourceRequest where
  /-- Files and directories, or a hyphen for standard input. -/
  paths : List String
  /-- Globs of paths to leave out, beside those of the settings. -/
  exclude : List String
  /-- Extensions of sources, in place of those of the settings. -/
  extensions : Option (List String)

/-- A check of sources. -/
structure CheckRequest where
  /-- The sources. -/
  sources : SourceRequest
  /-- Path of the settings file. -/
  settings : Option String
  /-- Level in place of that of the settings. -/
  level : Option Level
  /-- Format of the reports. -/
  format : ReportFormat
  /-- File for the reports. -/
  output : Option String
  /-- Line length is measured in bytes, whatever the settings say. -/
  doubleByte : Bool
  /-- Line length in place of that of the settings. -/
  maxLineLength : Option Nat
  /-- Path of the rule file in place of that of the settings. -/
  customRules : Option String
  /-- Rules whose findings are dropped, beside those of the settings. -/
  disable : List String
  /-- Which checks run. -/
  scope : Scope
  /-- When findings make the check fail. -/
  policy : ExitPolicy

/-- A count of the lines of sources. -/
structure StatisticsRequest where
  /-- The sources. -/
  sources : SourceRequest
  /-- Path of the settings file. -/
  settings : Option String
  /-- Format of the counts. -/
  format : StatisticsFormat
  /-- File for the counts. -/
  output : Option String

/-- What to do with the user's own rules. -/
inductive RulesRequest
  /-- An action on the rule file. -/
  | action (action : RuleAction)
  /-- Takes the rules of another file. -/
  | importFile (path : String) (merge : Bool)
  /-- Writes the text of the rule file to another file. -/
  | exportTo (path : String)

/-- What a user asks for. -/
inductive Command
  /-- Checks sources. -/
  | check (request : CheckRequest)
  /-- Counts the lines of sources. -/
  | statistics (request : StatisticsRequest)
  /-- Works on the rule file at a path. -/
  | rules (file : Option String) (request : RulesRequest)
  /-- Writes a settings file to start from; with `force` in place of another one. -/
  | newSettings (path : String) (force : Bool)

/-- A command with the options that all commands have. -/
structure Invocation where
  /-- More is shown. -/
  verbose : Bool
  /-- Only what is asked for is shown. -/
  quiet : Bool
  /-- When output is coloured. -/
  colour : ColourChoice
  /-- Settings files are not searched for. -/
  noSettings : Bool
  /-- The command. -/
  command : Command

end RpgLint
