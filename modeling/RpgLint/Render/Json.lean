import RpgLint.Check.Codec
import RpgLint.Json.Printer
import RpgLint.Line.Statistics
import RpgLint.Report.Basic

/-!
# Reports and statistics as JSON

## Main definitions

* `Report.toJson`, `LineStatistics.toJson` — reports and statistics as records.
* `renderJson`, `renderStatisticsJson` — their texts.
-/

namespace RpgLint

/-- The numbers of lines of each kind. -/
def SpecCounts.toJson (counts : SpecCounts) : Json :=
  .object (SpecType.all.map fun spec => (spec.code, .nat (counts spec)))

/-- The fields of a summary. -/
def Summary.fields (summary : Summary) : List (String × Json) :=
  [("totalIssues", .nat summary.total),
    ("errors", .nat summary.errors),
    ("warnings", .nat summary.warnings),
    ("infos", .nat summary.infos),
    ("checkedLines", .nat summary.checkedLines),
    ("specificationCounts", summary.specs.toJson)]

/-- The report as a record. -/
def Report.toJson (report : Report) : Json :=
  .record
    [("valid", some (.bool report.valid)),
      ("issues", some (.array (report.issues.map Issue.toJson))),
      ("summary", some (.object report.summary.fields)),
      ("filePath", report.path.map .string)]

/-- The reports as JSON, with the numbers of all in front. -/
def renderJson (reports : List Report) : String :=
  let valid := reports.countP (·.valid)
  Json.pretty (.object
    [("summary", .object
        ([("totalFiles", .nat reports.length), ("validFiles", .nat valid)] ++
          (Report.aggregate reports).fields)),
      ("reports", .array (reports.map Report.toJson))])

/-- The fields of the counts of a source. -/
def LineStatistics.fields (counts : LineStatistics) : List (String × Json) :=
  [("totalLines", .nat counts.total),
    ("commentLines", .nat counts.comments),
    ("codeLines", .nat counts.code),
    ("continuationLines", .nat counts.continuations),
    ("emptyLines", .nat counts.empty),
    ("specificationCounts", counts.specs.toJson)]

/-- The counts of a source as a record. -/
def LineStatistics.toJson (counts : LineStatistics) : Json := .object counts.fields

/-- The counts of several sources as JSON. -/
def renderStatisticsJson (project : ProjectStatistics) : String :=
  Json.pretty (.object
    [("totalFiles", .nat project.files.length),
      ("total", project.total.toJson),
      ("files", .array (project.files.map fun file =>
        .object (("path", .string file.path) :: file.counts.fields)))])

end RpgLint
