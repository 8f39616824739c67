import RpgLint.Check.Issue
import RpgLint.Line.Directive
import RpgLint.Line.Content
import RpgLint.Line.Opcode

/-!
# Legacy constructs

Operation codes to avoid, numbered indicators, jumps, and the advice to use free form.

## Main definitions

* `checkDeprecated`, `checkIndicators`, `checkJumps` — the findings on old constructs.
* `adviseFreeForm?` — the advice for a member without the `**FREE` sentinel.
-/

namespace RpgLint

/-- The finding on an operation code to avoid. -/
def deprecatedIssue (line : Line) (entry : DeprecatedOpcode) : Issue :=
  let name := entry.family.name
  let reason := entry.reason
  Issue.atSpan Field.opcode
    { severity := .warning
      category := .deprecated
      line := line.number
      rule := "DEPRECATED_OPCODE"
      message := s!"Deprecated operation '{name}' is used: {reason}"
      description := some s!"The {name} operation is deprecated."
      suggestion := some entry.alternative
      snippet := some line.raw }

/-- The findings on operation codes to avoid. -/
def checkDeprecated (lines : List Line) : List Issue :=
  lines.filterMap fun line => (DeprecatedOpcode.ofLine? line).map (deprecatedIssue line)

/-- The finding on a numbered indicator. -/
def indicatorIssue (line : Line) (use : IndicatorUse) : Issue :=
  let text := use.text
  { severity := .warning
    category := .bestPractice
    line := line.number
    rule := "INDICATOR_USAGE"
    message := s!"Numbered indicator '{text}' should be avoided"
    column := some use.column
    endColumn := some (use.column + charLength text - 1)
    description := some "Numbered indicators (*IN01-*IN99) hurt readability."
    suggestion := some "Use named indicators or boolean variables such as isValid"
    snippet := some line.raw }

/-- The findings on numbered indicators of one line. -/
def lineIndicators (line : Line) : List Issue :=
  if line.isComment then [] else (indicatorUses line.raw).map (indicatorIssue line)

/-- The findings on numbered indicators. -/
def checkIndicators (lines : List Line) : List Issue := lines.flatMap lineIndicators

/-- The lines that use a numbered indicator. -/
def indicatorLines (lines : List Line) : List Line :=
  lines.filter fun line => !(lineIndicators line).isEmpty

/-- The finding on a jump. -/
def jumpIssue? (line : Line) : Option Issue :=
  if line.isComment then none
  else match line.opcode? with
    | none => none
    | some opcode =>
      if baseOpcode opcode = "GOTO" then
        some (Issue.atSpan Field.opcode
          { severity := .error
            category := .bestPractice
            line := line.number
            rule := "NO_GOTO"
            message := "GOTO breaks structured programming"
            description :=
              some "GOTO tangles control flow and makes code harder to maintain."
            suggestion := some "Use IF/ELSE, DO loops or SELECT/WHEN"
            snippet := some line.raw })
      else none

/-- The findings on jumps. -/
def checkJumps (lines : List Line) : List Issue := lines.filterMap jumpIssue?

/-- The advice to convert a member with fixed specifications and without the sentinel. -/
def adviseFreeForm? (lines : List Line) : Option Issue :=
  if hasFreeSentinel lines || !lines.any (·.isFixedCode) then none
  else some
    { severity := .info
      category := .bestPractice
      line := 1
      rule := "RECOMMEND_FULLY_FREE"
      message := "Consider converting the source to fully free format (**FREE)"
      description := some "Fully free-form source is easier to read and maintain."
      suggestion :=
        some "Add **FREE on the first line and convert the code to free format" }

end RpgLint
