import RpgLint.Check.Issue
import RpgLint.Json.Record

/-!
# Findings in JSON

## Main definitions

* `Issue.toJson`, `Issue.ofJson?` — a finding as a record; fields without a value are left out.
-/

namespace RpgLint

namespace Issue

/-- The finding as a record. -/
def toJson (issue : Issue) : Json :=
  .record
    [("severity", some (.string issue.severity.name)),
      ("category", some (.string issue.category.name)),
      ("line", some (.nat issue.line)),
      ("column", issue.column.map .nat),
      ("endColumn", issue.endColumn.map .nat),
      ("message", some (.string issue.message)),
      ("rule", some (.string issue.rule)),
      ("ruleDescription", issue.description.map .string),
      ("suggestion", issue.suggestion.map .string),
      ("codeSnippet", issue.snippet.map .string),
      ("correctedCode", issue.correction.map .string)]

/-- The fields of a finding, in order. -/
def fieldNames : List String :=
  ["severity", "category", "line", "column", "endColumn", "message", "rule", "ruleDescription",
    "suggestion", "codeSnippet", "correctedCode"]

/-- The finding that a record describes. -/
def ofJson? (value : Json) : Option Issue :=
  match value.slots? fieldNames with
  | some [severity, category, line, column, endColumn, message, rule, description, suggestion,
      snippet, correction] => do
    return {
      severity := ← Slot.required? (Json.word? Severity.ofName?) severity
      category := ← Slot.required? (Json.word? Category.ofName?) category
      line := ← Slot.required? Json.nat64? line
      column := ← Slot.optional? Json.nat64? column
      endColumn := ← Slot.optional? Json.nat64? endColumn
      message := ← Slot.required? Json.text? message
      rule := ← Slot.required? Json.text? rule
      description := ← Slot.optional? Json.text? description
      suggestion := ← Slot.optional? Json.text? suggestion
      snippet := ← Slot.optional? Json.text? snippet
      correction := ← Slot.optional? Json.text? correction }
  | _ => none

end Issue

end RpgLint
