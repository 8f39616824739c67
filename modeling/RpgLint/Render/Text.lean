import RpgLint.Render.Terminal
import RpgLint.Report.Basic

/-!
# Reports as text

## Main definitions

* `TextStyle` — colours or not, and how much is shown.
* `renderText` — reports one after another, with the numbers of all at the end.
-/

namespace RpgLint

/-- How reports are shown as text. -/
structure TextStyle where
  /-- Colours are wanted. -/
  coloured : Bool := false
  /-- Rules, descriptions and texts are shown too. -/
  verbose : Bool := false

/-- The mark in front of a finding. -/
def severityLabel : Severity → String
  | .error => "✗ [ERROR]"
  | .warning => "⚠ [WARNING]"
  | .info => "ℹ [INFO]"

/-- The colour of the mark. -/
def severityColour : Severity → Colour
  | .error => .red
  | .warning => .yellow
  | .info => .cyan

/-- Where a finding points. -/
def issuePlace (issue : Issue) : String :=
  match issue.column with
  | some column => s!"Line {issue.line}:{column}"
  | none => s!"Line {issue.line}"

/-- A line for a value, if there is one. -/
def labelled (label : String) (value : Option String) : List String :=
  (value.map fun value => label ++ value).toList

/-- The lines of a finding, with an empty one behind. -/
def textIssue (style : TextStyle) (issue : Issue) : List String :=
  let label := paint style.coloured [severityColour issue.severity] (severityLabel issue.severity)
  let whenVerbose := fun (lines : List String) => if style.verbose then lines else []
  [s!"{label} {issuePlace issue} - {issue.message}"] ++
    whenVerbose (("  Rule: " ++ issue.rule) :: labelled "  Description: " issue.description) ++
    labelled "  Suggestion: " issue.suggestion ++
    whenVerbose (labelled "  Code: " issue.snippet ++ labelled "  Corrected: " issue.correction) ++
    [""]

/-- The lines of the numbers of a report. -/
def textSummary (summary : Summary) : List String :=
  ["[Summary]",
    s!"Total issues: {summary.total}",
    s!"  Errors: {summary.errors}",
    s!"  Warnings: {summary.warnings}",
    s!"  Infos: {summary.infos}",
    s!"Checked lines: {summary.checkedLines}",
    ""]

/-- The lines of the numbers of lines of each kind; kinds without lines and unknown lines are left
out. -/
def textSpecCounts (summary : Summary) : List String :=
  ["[Specification Counts]"] ++
    (SpecType.all.filterMap fun spec =>
      if summary.specs spec = 0 || spec == .unknown then none
      else some s!"  {spec.code} ({spec.description}): {summary.specs spec} lines") ++
    [""]

/-- The line that sets off the parts of a report. -/
def textRule : String := String.ofList (List.replicate 80 '=')

/-- The lines of a report. -/
def textReport (style : TextStyle) (report : Report) : List String :=
  let verdict :=
    if report.valid then paint style.coloured [.green] "✓ PASSED"
    else paint style.coloured [.red] "✗ FAILED"
  [textRule, "RPG Check Result", textRule, ""] ++
    (match report.path with
      | some path => ["File: " ++ path, ""]
      | none => []) ++
    textSummary report.summary ++
    (if style.verbose then textSpecCounts report.summary else []) ++
    (if report.issues.isEmpty then ["No issues found.", ""]
      else ["[Issues]", ""] ++ report.issues.flatMap (textIssue style)) ++
    [textRule, "Result: " ++ verdict, textRule]

/-- The lines of the numbers of several reports. -/
def textTotal (reports : List Report) : List String :=
  let total := Report.aggregate reports
  let failed := reports.countP fun report => !report.valid
  let numbers := s!"{total.errors} errors, {total.warnings} warnings, {total.infos} infos"
  ["", s!"Checked {reports.length} files ({failed} failed): {numbers}"]

/-- The reports as text, with an empty line between two. -/
def renderText (style : TextStyle) (reports : List Report) : String :=
  let blocks := reports.map (textReport style)
  unlines
    (((blocks.intersperse [""]).flatten) ++ if 1 < reports.length then textTotal reports else [])

end RpgLint
