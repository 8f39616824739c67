import RpgLint.Render.Json
import RpgLint.Render.Markdown
import RpgLint.Render.Text

/-!
# Formats

## Main definitions

* `ReportFormat`, `StatisticsFormat` — the formats a user may ask for.
* `renderStatisticsText` — the counts of each source and of all together, as text.
* `renderReports`, `renderStatistics` — texts in these formats.
-/

namespace RpgLint

/-! ### Reports -/

/-- How reports are written. -/
inductive ReportFormat
  | text
  | json
  | markdown
  deriving DecidableEq, Repr

/-- The words by which a user names a format. -/
def ReportFormat.vocabulary : Vocabulary ReportFormat :=
  { words := [("text", text), ("json", json), ("markdown", markdown), ("md", markdown)]
    unknown := fun word => s!"Unknown output format: {word}" }

/-- The reports in a format. -/
def renderReports (format : ReportFormat) (style : TextStyle) (reports : List Report) : String :=
  match format with
  | .text => renderText style reports
  | .json => renderJson reports
  | .markdown => renderMarkdown style.verbose reports

/-! ### Statistics -/

/-- The kinds that the line of a single source names. -/
def breakdownSpecs : List SpecType := SpecType.mandatoryOrder ++ [.free]

/-- The numbers of lines of the kinds that occur. -/
def specBreakdown (counts : SpecCounts) : String :=
  String.intercalate ", "
    (breakdownSpecs.filterMap fun spec =>
      if counts spec = 0 then none else some s!"{spec.code}={counts spec}")

/-- The lines for one source. -/
def fileStatisticsText (file : FileStatistics) : List String :=
  let counts := file.counts
  let breakdown := specBreakdown counts.specs
  let parts := s!"code={counts.code}, comment={counts.comments}, empty={counts.empty}"
  s!"{file.path}: {counts.total} lines ({parts}, continuation={counts.continuations})" ::
    (if breakdown.isEmpty then [] else ["  specs: " ++ breakdown])

/-- The counts of each source and of all together. -/
def renderStatisticsText (project : ProjectStatistics) : String :=
  let total := project.total
  unlines
    (project.files.flatMap fileStatisticsText ++
      (if project.files.isEmpty then [] else [""]) ++
      ["Summary:",
        s!"  Files: {project.files.length}",
        s!"  Total lines: {total.total}",
        s!"  Code: {total.code}",
        s!"  Comments: {total.comments}",
        s!"  Empty: {total.empty}",
        s!"  Continuations: {total.continuations}"] ++
      SpecType.all.filterMap fun spec =>
        if total.specs spec = 0 then none
        else some s!"  {spec.description} ({spec.code}): {total.specs spec}")

/-- How statistics are written. -/
inductive StatisticsFormat
  | text
  | json
  deriving DecidableEq, Repr

/-- The words by which a user names a format of statistics. -/
def StatisticsFormat.vocabulary : Vocabulary StatisticsFormat :=
  { words := [("text", text), ("json", json)]
    unknown := fun word => s!"Unknown stats format: {word}" }

/-- The statistics in a format. -/
def renderStatistics (format : StatisticsFormat) (project : ProjectStatistics) : String :=
  match format with
  | .text => renderStatisticsText project
  | .json => renderStatisticsJson project

end RpgLint
