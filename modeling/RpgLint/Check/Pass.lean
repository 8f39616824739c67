import RpgLint.Check.Columns
import RpgLint.Check.Continuation
import RpgLint.Check.Definition
import RpgLint.Check.FreeForm
import RpgLint.Check.Legacy
import RpgLint.Check.Length
import RpgLint.Check.Names
import RpgLint.Check.Order
import RpgLint.Check.Statement
import RpgLint.Rule.Compiled

/-!
# Passes

A pass joins the checks of one concern, in the order in which their findings are listed.

## Main definitions

* `layoutPass`, `syntaxPass`, `namePass`, `practicePass`, `mistakePass` — the passes of a full
  check.
* `Pass` — every pass that can be run on its own.
-/

namespace RpgLint

/-- Order of specifications, columns, definition fields and line length. -/
def layoutPass (limit : LengthLimit) (level : Level) (lines : List Line) : List Issue :=
  checkOrder lines ++ checkColumns level lines ++ checkDefinitions level lines ++
    checkLength limit lines

/-- Continuations, statements on one line, and free-form directives. -/
def syntaxPass (level : Level) (lines : List Line) : List Issue :=
  checkContinuations lines ++
    (if level.atLeastStandard then checkMultipleStatements lines else []) ++
    checkFreeDirectives lines ++ (if level.isStrict then checkFullyFree lines else [])

/-- Names. -/
def namePass (level : Level) (lines : List Line) : List Issue := checkNames level lines

/-- Legacy constructs and the user's own rules. -/
def practicePass (rules : List CompiledRule) (level : Level) (lines : List Line) : List Issue :=
  checkDeprecated lines ++
    (if level.atLeastStandard then checkIndicators lines ++ checkJumps lines else []) ++
    (if level.isStrict then (adviseFreeForm? lines).toList else []) ++ checkRules rules lines

/-- Mistakes that slip in when source is edited by hand. -/
def mistakePass (level : Level) (lines : List Line) : List Issue :=
  lines.filterMap fileNameSpacing? ++ checkContinuationGaps lines ++ checkFreeMisuse lines ++
    (lateDefinition? lines).toList ++
    (if level.atLeastStandard then checkParentheses lines ++ checkQuotes lines else [])

/-- A pass, or a part of one, that can be run on its own. -/
inductive Pass
  | order
  | columns
  | definitions
  | length
  | layout
  | statements
  | names
  | practice
  | mistakes
  deriving DecidableEq, Repr

namespace Pass

/-- Every pass. -/
def all : List Pass :=
  [order, columns, definitions, length, layout, statements, names, practice, mistakes]

/-- Name of the pass. -/
def name : Pass → String
  | order => "spec-order"
  | columns => "columns"
  | definitions => "column-shift"
  | length => "line-length"
  | layout => "structure"
  | statements => "syntax"
  | names => "naming"
  | practice => "best-practice"
  | mistakes => "common-errors"

/-- The pass with the given name. -/
def ofName? (name : String) : Option Pass := all.find? (·.name == name)

/-- The findings of the pass, in the order of its checks. -/
def run (limit : LengthLimit) (rules : List CompiledRule) (level : Level) (lines : List Line) :
    Pass → List Issue
  | order => checkOrder lines
  | columns => checkColumns level lines
  | definitions => checkDefinitions level lines
  | length => checkLength limit lines
  | layout => layoutPass limit level lines
  | statements => syntaxPass level lines
  | names => namePass level lines
  | practice => practicePass rules level lines
  | mistakes => mistakePass level lines

end Pass

end RpgLint
