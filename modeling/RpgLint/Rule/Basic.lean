import RpgLint.Check.Issue

/-!
# The user's own rules

A rule reports the lines on which its pattern occurs.  Rules are kept in a file with a version, and
changed by patches that name only the fields to change.

## Main definitions

* `Rule`, `RuleFile` — a rule, and the rules of a file.
* `RulePatch` — a change of a rule; `RulePatch.apply` carries it out.
-/

namespace RpgLint

/-- A rule of the user. -/
structure Rule where
  /-- The rule's id. -/
  id : String
  /-- Displayed name. -/
  name : String
  /-- What the rule asks for. -/
  description : String := ""
  /-- What its findings are about. -/
  category : Category
  /-- How grave its findings are. -/
  severity : Severity
  /-- The rule is in force. -/
  enabled : Bool := true
  /-- The pattern to look for in each line. -/
  pattern : Option String := none
  /-- What its findings say. -/
  message : String
  /-- What to do. -/
  suggestion : Option String := none
  deriving DecidableEq, Repr

/-- The rules of a file. -/
structure RuleFile where
  /-- Version of the file's format. -/
  version : String := "1.0.0"
  /-- The rules in order. -/
  rules : List Rule := []
  deriving DecidableEq, Repr

namespace RuleFile

/-- The first rule with the id. -/
def get? (file : RuleFile) (id : String) : Option Rule := file.rules.find? (·.id == id)

/-- The rules in force. -/
def enabledRules (file : RuleFile) : List Rule := file.rules.filter (·.enabled)

/-- The ids of the rules, in order. -/
def ids (file : RuleFile) : List String := file.rules.map (·.id)

end RuleFile

/-- New values for some fields of a rule.  The id of a rule does not change. -/
structure RulePatch where
  /-- New displayed name. -/
  name : Option String := none
  /-- New description. -/
  description : Option String := none
  /-- New category. -/
  category : Option Category := none
  /-- New severity. -/
  severity : Option Severity := none
  /-- In force or not. -/
  enabled : Option Bool := none
  /-- New pattern. -/
  pattern : Option String := none
  /-- New message. -/
  message : Option String := none
  /-- New suggestion. -/
  suggestion : Option String := none
  deriving DecidableEq, Repr

/-- The rule with the new values. -/
def RulePatch.apply (patch : RulePatch) (rule : Rule) : Rule :=
  { id := rule.id
    name := patch.name.getD rule.name
    description := patch.description.getD rule.description
    category := patch.category.getD rule.category
    severity := patch.severity.getD rule.severity
    enabled := patch.enabled.getD rule.enabled
    pattern := patch.pattern <|> rule.pattern
    message := patch.message.getD rule.message
    suggestion := patch.suggestion <|> rule.suggestion }

end RpgLint
