import RpgLint.Check.Issue
import RpgLint.Line.Directive

/-!
# Free-form code

The directives `/FREE` and `/END-FREE` are brackets.  The sentinel `**FREE` makes a whole member
free form, and then neither directives nor fixed specifications belong in it.

## Main definitions

* `checkFreeDirectives` — the findings on directives without a partner.
* `checkFreeMisuse` — the findings on `/FREE` where it does not belong.
* `checkFullyFree` — the findings on members that mix the sentinel with fixed specifications.
-/

namespace RpgLint

/-- The finding on an `/END-FREE` without a partner. -/
def unmatchedEndFree (line : Line) : Issue :=
  { severity := .error
    category := .syntactic
    line := line.number
    rule := "UNMATCHED_END_FREE"
    message := "/END-FREE without a matching /FREE"
    suggestion := some "Add the missing /FREE or remove this /END-FREE"
    snippet := some line.raw }

/-- The finding on a `/FREE` without a partner. -/
def unmatchedFree (line : Line) : Issue :=
  { severity := .error
    category := .syntactic
    line := line.number
    rule := "UNMATCHED_FREE"
    message := "/FREE without a matching /END-FREE"
    suggestion := some "Add /END-FREE after the free-form block" }

/-- The findings on directives when those of `pending` are open, the innermost first.  A directive
that is still open at the end has no partner. -/
def checkFreeDirectivesFrom (pending : List Line) : List Line → List Issue
  | [] => pending.reverse.map unmatchedFree
  | line :: lines =>
    match line.directive? with
    | some .free => checkFreeDirectivesFrom (line :: pending) lines
    | some .endFree =>
      match pending with
      | [] => unmatchedEndFree line :: checkFreeDirectivesFrom [] lines
      | _ :: outer => checkFreeDirectivesFrom outer lines
    | none => checkFreeDirectivesFrom pending lines

/-- The findings on directives without a partner. -/
def checkFreeDirectives (lines : List Line) : List Issue := checkFreeDirectivesFrom [] lines

/-- The finding on a directive in a member that is free form as a whole. -/
def freeConfusion (line : Line) : Issue :=
  { severity := .warning
    category := .syntactic
    line := line.number
    rule := "FREE_FORMAT_CONFUSION"
    message := "/FREE is used in a **FREE source"
    description :=
      some ("/FREE opens a column-limited free block; **FREE makes the whole member " ++
      "free form.")
    suggestion := some "Remove /FREE when the member uses **FREE"
    snippet := some line.raw }

/-- The finding on a directive after fixed calculations. -/
def freeAfterFixed (line : Line) : Issue :=
  { severity := .info
    category := .bestPractice
    line := line.number
    rule := "FREE_AFTER_FIXED"
    message := "/FREE follows fixed-format calculation code"
    suggestion := some "Consider converting the whole member to free form"
    snippet := some line.raw }

/-- A calculation, input or output line that is no comment. -/
def Line.isFixedCalculation (line : Line) : Bool :=
  !line.isComment && (line.spec == .calculation || line.spec == .input || line.spec == .output)

/-- The findings on `/FREE`, when a fixed calculation stands before the lines or not. -/
def checkFreeMisuseFrom (fullyFree seenFixed : Bool) : List Line → List Issue
  | [] => []
  | line :: lines =>
    (if line.directive? = some .free then
      (if fullyFree then [freeConfusion line] else []) ++
        (if seenFixed then [freeAfterFixed line] else [])
    else []) ++
      checkFreeMisuseFrom fullyFree (seenFixed || line.isFixedCalculation) lines

/-- The findings on `/FREE` in a free-form member or after fixed calculations. -/
def checkFreeMisuse (lines : List Line) : List Issue :=
  checkFreeMisuseFrom (hasFreeSentinel lines) false lines

/-- The finding on a free-form member with fixed specifications. -/
def mixedFormat : Issue :=
  { severity := .warning
    category := .syntactic
    line := 1
    rule := "MIXED_FORMAT"
    message := "**FREE source is mixed with fixed-format specifications"
    suggestion := some "Convert the whole member to fully free form" }

/-- The finding on the first fixed specification in front of the sentinel. -/
def lateSentinel (first : Line) : Issue :=
  { severity := .warning
    category := .syntactic
    line := first.number
    rule := "FREE_POSITION"
    message := "**FREE should be the first line of the member"
    suggestion := some "Move **FREE to line 1"
    snippet := some first.raw }

/-- The findings on a member with the sentinel that holds fixed specifications too. -/
def checkFullyFree (lines : List Line) : List Issue :=
  if !hasFreeSentinel lines then []
  else
    (if lines.any (·.isFixedCode) then [mixedFormat] else []) ++
      (((lines.takeWhile (·.spec != .free)).find? (·.isFixedCode)).map lateSentinel).toList

end RpgLint
