import RpgLint.Render.Text

/-!
# Reports as markdown

## Main definitions

* `renderMarkdown` — a table and the findings by severity for each report, under a table for all of
  them.
-/

namespace RpgLint

/-- The lines of a table of numbers. -/
def markdownTable (summary : Summary) : List String :=
  ["| Item | Value |",
    "|------|---:|",
    s!"| Total issues | {summary.total} |",
    s!"| Errors | {summary.errors} |",
    s!"| Warnings | {summary.warnings} |",
    s!"| Infos | {summary.infos} |",
    s!"| Checked lines | {summary.checkedLines} |",
    ""]

/-- The text between the marks of code. -/
def markdownCode (text : String) : String := "`" ++ text ++ "`"

/-- The lines of a finding. -/
def markdownIssue (verbose : Bool) (issue : Issue) : List String :=
  let whenVerbose := fun (lines : List String) => if verbose then lines else []
  [s!"- **{issuePlace issue}** - {issue.message}"] ++
    whenVerbose (("  - **Rule:** " ++ markdownCode issue.rule) ::
      labelled "  - **Description:** " issue.description) ++
    labelled "  - **Suggestion:** " issue.suggestion ++
    whenVerbose (labelled "  - **Code:** " (issue.snippet.map markdownCode) ++
      labelled "  - **Corrected:** " (issue.correction.map markdownCode))

/-- The heading above the findings of a severity. -/
def markdownHeading : Severity → String
  | .error => "Errors"
  | .warning => "Warnings"
  | .info => "Infos"

/-- The lines of the findings of a severity, if there are any. -/
def markdownSection (verbose : Bool) (issues : List Issue) (severity : Severity) : List String :=
  match issues.filter (·.severity == severity) with
  | [] => []
  | found =>
    ["### " ++ markdownHeading severity, ""] ++ found.flatMap (markdownIssue verbose) ++ [""]

/-- The lines of a report. -/
def markdownReport (verbose : Bool) (report : Report) : List String :=
  let verdict := if report.valid then "✅ Passed" else "❌ Failed"
  [match report.path with
    | some path => "## " ++ markdownCode path
    | none => "## Source",
    ""] ++
    markdownTable report.summary ++
    ["**Result:** " ++ verdict, ""] ++
    (if report.issues.isEmpty then ["✓ No issues found.", ""]
      else Severity.all.flatMap (markdownSection verbose report.issues))

/-- The reports as markdown. -/
def renderMarkdown (verbose : Bool) (reports : List Report) : String :=
  let valid := reports.countP (·.valid)
  unlines
    (["# RPG Check Result", ""] ++
      (if 1 < reports.length then
        [s!"**Files:** {reports.length} ({valid} passed)", ""] ++
          markdownTable (Report.aggregate reports)
      else []) ++
      reports.flatMap (markdownReport verbose))

end RpgLint
