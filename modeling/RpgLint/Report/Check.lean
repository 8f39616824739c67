import RpgLint.Check.Pass
import RpgLint.Report.Basic

/-!
# Checking a source

A check runs the passes of a scope, drops the findings of disabled rules, and sorts the rest by line
and severity; findings that agree in both keep the order in which the passes list them.  A member
that is free form as a whole is refused with a single finding.

## Main definitions

* `CheckOptions` — what a check depends on besides the source.
* `scopeIssues` — the findings of a scope in the order of the passes.
* `check` — the report on a source.
-/

namespace RpgLint

/-- What a check depends on besides the source. -/
structure CheckOptions where
  /-- How many rules run. -/
  level : Level := .standard
  /-- How long a line may be. -/
  limit : LengthLimit := {}
  /-- Names of rules whose findings are dropped. -/
  disabled : List String := []
  /-- The user's own rules. -/
  rules : List CompiledRule := []

/-- A finding on columns or line length. -/
def Issue.isColumnIssue (issue : Issue) : Bool :=
  contains issue.rule "_SPEC_" || issue.rule == "LINE_LENGTH"

/-- The findings of all passes, in their order. -/
def allIssues (options : CheckOptions) (lines : List Line) : List Issue :=
  layoutPass options.limit options.level lines ++ syntaxPass options.level lines ++
    namePass options.level lines ++ practicePass options.rules options.level lines ++
    mistakePass options.level lines

/-- The findings of a scope, in the order of the passes.  A scope other than all has a level of its
own. -/
def scopeIssues (options : CheckOptions) (lines : List Line) : Scope → List Issue
  | .all => allIssues options lines
  | .order => (layoutPass options.limit .basic lines).filter (·.rule == "SPEC_ORDER")
  | .columns => (layoutPass options.limit .standard lines).filter (·.isColumnIssue)
  | .naming => namePass .standard lines
  | .bestPractice => practicePass options.rules .standard lines

/-- The findings without those of disabled rules. -/
def dropDisabled (disabled : List String) (issues : List Issue) : List Issue :=
  issues.filter fun issue => !disabled.contains issue.rule

/-- The findings by line and severity; findings that agree in both keep their order. -/
def sortIssues (issues : List Issue) : List Issue := issues.mergeSort Issue.notAfter

/-- The finding on a member that is free form as a whole. -/
def unsupportedFreeForm (line : Line) : Issue :=
  { severity := .error
    category := .structural
    line := line.number
    rule := "UNSUPPORTED_FREE_FORMAT"
    message := "Fully free-form (**FREE) RPG source is not supported"
    column := some 1
    description :=
      some "Only fixed-format and column-limited free-form RPG can be checked."
    snippet := some line.raw }

/-- The report on classified lines. -/
def checkLines (options : CheckOptions) (scope : Scope) (path : Option String)
    (lines : List Line) : Report :=
  match lines.find? (·.spec == .free) with
  -- no line counts as checked
  | some sentinel =>
    .of [unsupportedFreeForm sentinel] { Summary.zero with total := 1, errors := 1 } path
  | none =>
    let issues := sortIssues (dropDisabled options.disabled (scopeIssues options lines scope))
    .of issues (.of issues lines.length (.of lines)) path

/-- The report on a source. -/
def check (options : CheckOptions) (scope : Scope) (path : Option String) (source : String) :
    Report :=
  checkLines options scope path (classify source)

end RpgLint
