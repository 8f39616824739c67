/-!
# Failures

What can go wrong outside of the sources: settings, files, patterns and rules.  A failure is a
cause; its wording, its heading and the hint that goes with it are derived.

## Main definitions

* `Fault` — what the machine says when a file cannot be read or written.
* `Failure` — the causes, with `message`, `heading`, `detail?` and `hint?`.
-/

namespace RpgLint

/-- What the machine says when a file cannot be read or written. -/
structure Fault where
  /-- The machine's words. -/
  text : String
  deriving DecidableEq, Repr

/-- What can go wrong. -/
inductive Failure
  /-- The settings ask for another version of their format. -/
  | unsupportedVersion (version : String)
  /-- A settings file is in the way. -/
  | settingsExist (path : String)
  /-- The settings are no document of their format. -/
  | settingsSyntax
  /-- A file cannot be read. -/
  | unreadable (path : String) (fault : Fault)
  /-- A file cannot be written. -/
  | io (fault : Fault)
  /-- A text is no glob. -/
  | badGlob (glob : String) (reason : String)
  /-- The pattern of a rule is no pattern. -/
  | badPattern (rule : String) (reason : String)
  /-- A rule file holds no rules. -/
  | badRuleFile (path : String)
  /-- A text to import holds no rules. -/
  | badImport
  /-- No rule has the id. -/
  | ruleNotFound (id : String)
  /-- A rule has the id already. -/
  | ruleExists (id : String)
  deriving DecidableEq, Repr

namespace Failure

/-- The failure in words. -/
def message : Failure → String
  | unsupportedVersion version =>
    s!"Configuration error: Unsupported config version '{version}'. " ++
      "Only version '1' is supported."
  | settingsExist path =>
    s!"Configuration error: Configuration file already exists: {path}. " ++
      "Use --force to overwrite."
  | settingsSyntax => "TOML parse error: invalid document"
  | unreadable path _ => s!"Failed to read file: {path}"
  | io fault => "IO error: " ++ fault.text
  | badGlob glob _ => s!"Invalid glob pattern: {glob}"
  | badPattern rule _ => s!"Invalid pattern in custom rule '{rule}'"
  | badRuleFile path => s!"Custom rules error: {path}: invalid document"
  | badImport => "Custom rules error: Invalid rules format: invalid document"
  | ruleNotFound id => s!"Custom rule not found: {id}"
  | ruleExists id => s!"Custom rule already exists: {id}"

/-- The heading under which the failure is shown. -/
def heading : Failure → String
  | unsupportedVersion _ | settingsExist _ | settingsSyntax => "Config"
  | unreadable _ _ | io _ => "IO"
  | badGlob _ _ => "Pattern"
  | badPattern _ _ | badRuleFile _ | badImport | ruleNotFound _ | ruleExists _ => "Rules"

/-- What lies behind the failure. -/
def detail? : Failure → Option String
  | unreadable _ fault => some fault.text
  | badGlob _ reason | badPattern _ reason => some reason
  | _ => none

/-- What to do about the failure. -/
def hint? : Failure → Option String
  | unsupportedVersion _ | settingsExist _ | settingsSyntax =>
    some "Check the syntax of .rpgle-guard.toml or run `rpgle-guard init`"
  | ruleNotFound _ => some "Run `rpgle-guard rules list` to see known rule ids"
  | ruleExists _ => some "Choose a different id or remove the existing rule first"
  | badPattern _ _ => some "Custom rule patterns use Rust regex syntax"
  | _ => none

end Failure

end RpgLint
