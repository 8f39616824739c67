import RpgLint.Check.Issue
import RpgLint.Line.Statistics

/-!
# Reports

The findings on one source with their numbers, and the numbers of several reports together.

## Main definitions

* `Summary`, `Report` — the outcome of a check.
* `Report.aggregate` — the numbers of several reports.
* `exitCode` — what a finished check tells its caller.
-/

namespace RpgLint

/-- The numbers of a report. -/
@[ext]
structure Summary where
  /-- Findings. -/
  total : Nat
  /-- Findings that are errors. -/
  errors : Nat
  /-- Findings that are warnings. -/
  warnings : Nat
  /-- Findings that inform. -/
  infos : Nat
  /-- Lines of the source. -/
  checkedLines : Nat
  /-- Lines of each kind. -/
  specs : SpecCounts

namespace Summary

/-- No findings on no lines. -/
def zero : Summary := ⟨0, 0, 0, 0, 0, .zero⟩

/-- The numbers of findings of a severity. -/
def count (severity : Severity) (issues : List Issue) : Nat :=
  issues.countP (·.severity == severity)

/-- The numbers of findings on a source with so many lines. -/
def of (issues : List Issue) (lines : Nat) (specs : SpecCounts) : Summary :=
  { total := issues.length
    errors := count .error issues
    warnings := count .warning issues
    infos := count .info issues
    checkedLines := lines
    specs := specs }

/-- The numbers of two reports together. -/
def add (a b : Summary) : Summary :=
  { total := a.total + b.total
    errors := a.errors + b.errors
    warnings := a.warnings + b.warnings
    infos := a.infos + b.infos
    checkedLines := a.checkedLines + b.checkedLines
    specs := a.specs.add b.specs }

end Summary

/-- The outcome of checking one source. -/
structure Report where
  /-- No finding is an error. -/
  valid : Bool
  /-- The findings in order. -/
  issues : List Issue
  /-- Their numbers. -/
  summary : Summary
  /-- Name of the source. -/
  path : Option String

namespace Report

/-- The report of findings and their numbers. -/
def of (issues : List Issue) (summary : Summary) (path : Option String) : Report :=
  { valid := !issues.any (·.isError)
    issues := issues
    summary := summary
    path := path }

/-- Some finding is a warning. -/
def hasWarnings (report : Report) : Bool := 0 < report.summary.warnings

/-- The numbers of several reports together. -/
def aggregate (reports : List Report) : Summary :=
  reports.foldl (fun total report => total.add report.summary) .zero

end Report

/-- When findings make a check fail. -/
structure ExitPolicy where
  /-- Findings never do. -/
  warnOnly : Bool := false
  /-- Warnings do, as errors always do. -/
  warningsAsErrors : Bool := false

/-- What a finished check tells its caller: 1 when findings make it fail, 0 otherwise. -/
def exitCode (policy : ExitPolicy) (reports : List Report) : Nat :=
  if policy.warnOnly then 0
  else if reports.any fun report =>
      !report.valid || (policy.warningsAsErrors && report.hasWarnings) then 1
  else 0

end RpgLint
