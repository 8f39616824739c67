import RpgLint.Json.Printer
import RpgLint.Json.Reader
import RpgLint.Json.Record
import RpgLint.Rule.Basic

/-!
# Rules in JSON

## Main definitions

* `Rule.toJson`, `Rule.ofJson?` — a rule as a record.
* `RuleFile.exportText`, `RuleFile.read?` — the text of a rule file.
* `RulePatch.ofJson?` — a patch as a record.
-/

namespace RpgLint

namespace Rule

/-- The rule as a record. -/
def toJson (rule : Rule) : Json :=
  .record
    [("id", some (.string rule.id)),
      ("name", some (.string rule.name)),
      ("description", some (.string rule.description)),
      ("category", some (.string rule.category.name)),
      ("severity", some (.string rule.severity.name)),
      ("enabled", some (.bool rule.enabled)),
      ("pattern", rule.pattern.map .string),
      ("message", some (.string rule.message)),
      ("suggestion", rule.suggestion.map .string)]

/-- The fields of a rule, in order. -/
def fieldNames : List String :=
  ["id", "name", "description", "category", "severity", "enabled", "pattern", "message",
    "suggestion"]

/-- The rule that a record describes. -/
def ofJson? (value : Json) : Option Rule :=
  match value.slots? fieldNames with
  | some [id, name, description, category, severity, enabled, pattern, message, suggestion] => do
    return {
      id := ← Slot.required? Json.text? id
      name := ← Slot.required? Json.text? name
      description := ← Slot.orDefault? Json.text? "" description
      category := ← Slot.required? (Json.word? Category.ofName?) category
      severity := ← Slot.required? (Json.word? Severity.ofName?) severity
      enabled := ← Slot.orDefault? Json.bool? true enabled
      pattern := ← Slot.optional? Json.text? pattern
      message := ← Slot.required? Json.text? message
      suggestion := ← Slot.optional? Json.text? suggestion }
  | _ => none

/-- The rules that a list describes. -/
def listOfJson? (value : Json) : Option (List Rule) := value.list?.bind (·.mapM ofJson?)

end Rule

namespace RuleFile

/-- The file as a record. -/
def toJson (file : RuleFile) : Json :=
  .record [("version", some (.string file.version)),
    ("rules", some (.array (file.rules.map Rule.toJson)))]

/-- The text of the file. -/
def exportText (file : RuleFile) : String := file.toJson.pretty

/-- The file that a record describes. -/
def ofJson? (value : Json) : Option RuleFile :=
  match value.slots? ["version", "rules"] with
  | some [version, rules] => do
    return {
      version := ← Slot.orDefault? Json.text? "1.0.0" version
      rules := ← Slot.required? Rule.listOfJson? rules }
  | _ => none

/-- The file that a text describes. -/
def read? (text : String) : Option RuleFile := (Json.read? text).bind ofJson?

end RuleFile

namespace RulePatch

/-- The fields of a patch, in order. -/
def fieldNames : List String :=
  ["name", "description", "category", "severity", "enabled", "pattern", "message", "suggestion"]

/-- A list stands for a patch only when it writes every field. -/
def isComplete : Json → Bool
  | .array items => items.length == fieldNames.length
  | _ => true

/-- The patch that a record describes. -/
def ofJson? (value : Json) : Option RulePatch :=
  if !isComplete value then none
  else match value.slots? fieldNames with
    | some [name, description, category, severity, enabled, pattern, message, suggestion] => do
      return {
        name := ← Slot.optional? Json.text? name
        description := ← Slot.optional? Json.text? description
        category := ← Slot.optional? (Json.word? Category.ofName?) category
        severity := ← Slot.optional? (Json.word? Severity.ofName?) severity
        enabled := ← Slot.optional? Json.bool? enabled
        pattern := ← Slot.optional? Json.text? pattern
        message := ← Slot.optional? Json.text? message
        suggestion := ← Slot.optional? Json.text? suggestion }
    | _ => none

end RulePatch

end RpgLint
