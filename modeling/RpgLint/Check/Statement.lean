import RpgLint.Check.Issue
import RpgLint.Line.Directive
import RpgLint.Line.Content

/-!
# Statements

A statement begins on a line of code and may go on over the lines that continue it.  Parentheses and
quotes are counted over the whole statement, semicolons over a single line.

## Main definitions

* `StatementGroup`, `statementGroups` — the statements of a source with their text.
* `checkParentheses`, `checkQuotes` — the findings on statements whose brackets or quotes do not
  pair up.
* `checkMultipleStatements` — the findings on lines that hold several statements.
-/

namespace RpgLint

/-- A statement: the line it begins on and the text of all its lines. -/
structure StatementGroup where
  /-- The line it begins on. -/
  head : Line
  /-- The text of its lines, joined. -/
  text : String
  deriving DecidableEq, Repr

/-- The line begins a statement. -/
def Line.beginsStatement (line : Line) : Bool := line.isCode && !line.continuesStatement

/-- The line goes on with a statement of the given type. -/
def Line.continuesType (line : Line) (spec : SpecType) : Bool :=
  line.continuesStatement && line.spec == spec

/-- The lines that go on with a statement of the given type.  Comments may stand between them. -/
def statementMembers (spec : SpecType) : List Line → List Line
  | [] => []
  | line :: lines =>
    if line.continuesType spec then line :: statementMembers spec lines
    else if line.isComment then statementMembers spec lines
    else []

/-- The statement that begins on a line, with the lines after it. -/
def StatementGroup.of (head : Line) (lines : List Line) : StatementGroup :=
  { head := head
    text := String.join (head.raw :: (statementMembers head.spec lines).map (·.raw)) }

/-- The statements of a source. -/
def statementGroups : List Line → List StatementGroup
  | [] => []
  | line :: lines =>
    if line.beginsStatement then .of line lines :: statementGroups lines else statementGroups lines

/-- The finding on a statement with more parentheses of one sort than of the other. -/
def parenthesesIssue? (group : StatementGroup) : Option Issue :=
  let text := stripLiterals group.text
  let opening := occurrences '(' text
  let closing := occurrences ')' text
  if opening = closing then none
  else some
    { severity := .warning
      category := .syntactic
      line := group.head.number
      rule := "UNMATCHED_PARENTHESES"
      message := s!"Unbalanced parentheses ({opening} opening, {closing} closing)"
      suggestion := some "Add the missing parenthesis"
      snippet := some group.head.raw }

/-- The finding on a statement with an odd number of quotes.  A first line that ends with `-` or `+`
goes on in the next line with its literal, and is left alone. -/
def quotesIssue? (group : StatementGroup) : Option Issue :=
  let head := trimEnd group.head.raw
  if endsWith head "-" || endsWith head "+" then none
  else if occurrences '\'' group.text % 2 = 0 then none
  else some
    { severity := .warning
      category := .syntactic
      line := group.head.number
      rule := "UNMATCHED_QUOTES"
      message := "Unbalanced single quotes"
      suggestion := some "Close the string literal"
      snippet := some group.head.raw }

/-- The findings on statements with unbalanced parentheses. -/
def checkParentheses (lines : List Line) : List Issue :=
  (statementGroups lines).filterMap parenthesesIssue?

/-- The findings on statements with unbalanced quotes. -/
def checkQuotes (lines : List Line) : List Issue :=
  (statementGroups lines).filterMap quotesIssue?

/-- Number of semicolons outside of literals. -/
def semicolons (raw : String) : Nat := occurrences ';' (stripLiterals raw)

/-- The finding on a line with several statements. -/
def multipleStatementsIssue (line : Line) (place : String) : Issue :=
  let count := semicolons line.raw
  { severity := .error
    category := .syntactic
    line := line.number
    rule := "MULTIPLE_STATEMENTS"
    message := s!"{count} statements on one line {place}"
    description := some "Only one statement may be written per line (RNF5508)."
    suggestion := some "Put each statement on its own line"
    snippet := some line.raw }

/-- The findings on a line with several statements, one for each place that the line counts as. -/
def multipleStatements (fullyFree inFreeBlock : Bool) (line : Line) : List Issue :=
  if line.directive?.isSome || line.isComment || semicolons line.raw ≤ 1 then []
  else
    (if line.spec == .calculation then [multipleStatementsIssue line "in a calculation"] else []) ++
    (if inFreeBlock then [multipleStatementsIssue line "inside /FREE"] else []) ++
    (if fullyFree && line.spec == .unknown && !startsWith line.trimmed "**" &&
        !startsWith line.trimmed "//" then
      [multipleStatementsIssue line "in **FREE source"]
    else [])

/-- The findings on lines with several statements, when a free block is open before them or not. -/
def checkMultipleStatementsFrom (fullyFree inFreeBlock : Bool) : List Line → List Issue
  | [] => []
  | line :: lines =>
    multipleStatements fullyFree inFreeBlock line ++
      checkMultipleStatementsFrom fullyFree (insideFreeAfter inFreeBlock line) lines

/-- The findings on lines with several statements. -/
def checkMultipleStatements (lines : List Line) : List Issue :=
  checkMultipleStatementsFrom (hasFreeSentinel lines) false lines

end RpgLint
