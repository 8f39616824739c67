import RpgLint.Line.Basic

/-!
# Findings

A finding names a rule, a line and usually the columns concerned, and may carry a description of the
rule, a hint, the text of the line, and a corrected line.

## Main definitions

* `Severity`, `Category` — how grave a finding is and what it is about, with the words for it.
* `Issue` — a finding.
* `Issue.atSpan` — points a finding at a field.
* `letterIssue?` — the findings `H_SPEC_COL6`, `F_SPEC_COL6` and so on: a line of a type that does
  not have the letter of that type.
-/

namespace RpgLint

/-- How grave a finding is. -/
inductive Severity
  | error
  | warning
  | info
  deriving DecidableEq, Repr, Inhabited

namespace Severity

/-- Every severity, the gravest first. -/
def all : List Severity := [error, warning, info]

/-- Written name. -/
def name : Severity → String
  | error => "error"
  | warning => "warning"
  | info => "info"

/-- Place in the order of reports: errors come first. -/
def rank : Severity → Nat
  | error => 0
  | warning => 1
  | info => 2

/-- The severity with exactly the written name. -/
def ofName? (name : String) : Option Severity := all.find? (·.name == name)

/-- The words by which a user names a severity; `warn` is short for `warning`. -/
def vocabulary : Vocabulary Severity :=
  { words := all.map (fun severity => (severity.name, severity)) ++ [("warn", warning)]
    unknown := fun word => s!"Unknown severity: {word}" }

/-- A written name is read as its severity. -/
theorem read_name (severity : Severity) : vocabulary.read severity.name = .ok severity := by
  cases severity <;> rfl

end Severity

/-- What a finding is about. -/
inductive Category
  /-- Layout of lines and order of specifications. -/
  | structural
  /-- Statements and directives. -/
  | syntactic
  /-- Names. -/
  | naming
  /-- Style. -/
  | bestPractice
  /-- Operations to avoid. -/
  | deprecated
  deriving DecidableEq, Repr, Inhabited

namespace Category

/-- Every category. -/
def all : List Category := [structural, syntactic, naming, bestPractice, deprecated]

/-- Written name. -/
def name : Category → String
  | structural => "structure"
  | syntactic => "syntax"
  | naming => "naming"
  | bestPractice => "best-practice"
  | deprecated => "deprecated"

/-- The category with exactly the written name. -/
def ofName? (name : String) : Option Category := all.find? (·.name == name)

/-- The words by which a user names a category. -/
def vocabulary : Vocabulary Category :=
  { words :=
      all.map (fun category => (category.name, category)) ++ [("best_practice", bestPractice)]
    unknown := fun word => s!"Unknown category: {word}" }

/-- A written name is read as its category. -/
theorem read_name (category : Category) : vocabulary.read category.name = .ok category := by
  cases category <;> rfl

end Category

/-- A finding. -/
structure Issue where
  /-- How grave it is. -/
  severity : Severity
  /-- What it is about. -/
  category : Category
  /-- Number of the line. -/
  line : Nat
  /-- First column concerned. -/
  column : Option Nat := none
  /-- Last column concerned, for a finding on several columns. -/
  endColumn : Option Nat := none
  /-- What is wrong. -/
  message : String
  /-- Name of the rule. -/
  rule : String
  /-- What the rule asks for. -/
  description : Option String := none
  /-- What to do. -/
  suggestion : Option String := none
  /-- The text concerned. -/
  snippet : Option String := none
  /-- The line as it could be. -/
  correction : Option String := none
  deriving DecidableEq, Repr

namespace Issue

/-- Points the finding at the columns of a field; a field of one character has no last column. -/
def atSpan (span : Span) (issue : Issue) : Issue :=
  if span.stop - span.start = 1 then { issue with column := some span.firstColumn }
  else { issue with column := some span.firstColumn, endColumn := some span.lastColumn }

/-- The finding is an error. -/
def isError (issue : Issue) : Bool := issue.severity == .error

/-- The order of findings in a report: by line, and on a line by severity. -/
def notAfter (a b : Issue) : Bool :=
  a.line < b.line || (a.line == b.line && a.severity.rank ≤ b.severity.rank)

end Issue

/-- The finding on a line of a type with another letter in column 6. -/
def letterIssue? (line : Line) (expected : Char) : Option Issue :=
  match charAt? line.raw Field.specLetter.start with
  | none => none
  | some found =>
    if sameLetter found expected then none
    else some (Issue.atSpan Field.specLetter
      { severity := .error
        category := .structural
        line := line.number
        rule := s!"{expected}_SPEC_COL6"
        message := s!"Column 6 of a {expected} specification must be '{expected}', found '{found}'"
        snippet := some line.raw })

end RpgLint
