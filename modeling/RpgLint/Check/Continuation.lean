import RpgLint.Check.Issue

/-!
# Continuation lines

A line with `-` or `+` in column 7 continues the line before it, apart from comments in between.
The two must be of the same type.

## Main definitions

* `checkContinuations` — the findings on marked lines that continue nothing, or something else.
* `checkContinuationGaps` — the findings on marked lines in front of a blank line.
-/

namespace RpgLint

/-- A comment, marked in column 6 or in column 7. -/
def Line.isAnyComment (line : Line) : Bool := line.isComment || line.spec == .comment

/-- A finding on a line marked as a continuation. -/
def continuationIssue (line : Line) (rule message : String) : Issue :=
  { severity := .error
    category := .syntactic
    line := line.number
    rule := rule
    message := message
    column := some 7
    snippet := some line.raw }

/-- What a marked line has in front of it. -/
inductive Predecessor
  /-- Nothing: it is the first line. -/
  | nothing
  /-- Comments only. -/
  | comments
  /-- A line, which is no comment. -/
  | line (line : Line)

/-- What the next line has in front of it, after a line with the given predecessor. -/
def Predecessor.after (before : Predecessor) (line : Line) : Predecessor :=
  if line.isAnyComment then
    match before with
    | .nothing | .comments => .comments
    | .line previous => .line previous
  else .line line

/-- The finding on a line with the given predecessor.  An unknown line may be continued by any
type. -/
def continuationIssue? (before : Predecessor) (line : Line) : Option Issue :=
  if !line.hasMarker then none
  else match before with
    | .nothing =>
      some { continuationIssue line "CONTINUATION_NO_PREVIOUS"
          "Continuation line has no line to continue" with
        description := some "A line with '-' or '+' in column 7 continues the previous line."
        suggestion := some "Remove the continuation marker or add the line it continues" }
    | .comments =>
      some { continuationIssue line "CONTINUATION_AFTER_COMMENT"
          "Continuation line is preceded only by comments" with
        suggestion := some "A continuation cannot continue a comment" }
    | .line previous =>
      if previous.spec = line.spec || previous.spec = .unknown then none
      else
        let own := line.spec.code
        let other := previous.spec.code
        some { continuationIssue line "CONTINUATION_TYPE_MISMATCH"
            s!"Continuation line type ({own}) does not match the previous line ({other})" with
          description :=
            some ("A continuation line must have the same specification type as the " ++
            "line it continues.") }

/-- The findings on marked lines when the first of them has the given predecessor. -/
def checkContinuationsFrom (before : Predecessor) : List Line → List Issue
  | [] => []
  | line :: lines =>
    (continuationIssue? before line).toList ++ checkContinuationsFrom (before.after line) lines

/-- The findings on marked lines that continue nothing, or a line of another type. -/
def checkContinuations (lines : List Line) : List Issue := checkContinuationsFrom .nothing lines

/-- The finding on a marked line that is followed by a blank one. -/
def continuationGapIssue (line : Line) : Issue :=
  { severity := .warning
    category := .syntactic
    line := line.number
    rule := "CONTINUATION_FOLLOWED_BY_BLANK"
    message := "Continuation line is followed by a blank line"
    suggestion := some "Remove the blank line or check the continuation marker"
    snippet := some line.raw }

/-- The findings on marked lines that are followed by a blank one. -/
def checkContinuationGaps (lines : List Line) : List Issue :=
  (lines.zip lines.tail).filterMap fun (line, next) =>
    if line.hasMarker && next.isBlank then some (continuationGapIssue line) else none

end RpgLint
