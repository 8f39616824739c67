import RpgLint.Failure
import RpgLint.Rule.Basic

/-!
# Rules ready to run

The enabled rules with a pattern are run against each line.  A rule whose pattern cannot be read is
left out and reported.  How patterns are written, and where they occur, is up to the engine that
reads them.

## Main definitions

* `PatternEngine` — what reads patterns.
* `CompiledRule` — a rule with its pattern.
* `compileRules` — the rules that can run, and the failures of the others.
* `checkRules` — the findings of rules, line by line.
-/

namespace RpgLint

/-- What reads patterns, whatever the case of their letters. -/
structure PatternEngine where
  /-- Reads a pattern: what tells whether it occurs in a text, or what is wrong with it. -/
  read : String → Except String (String → Bool)

/-- A rule with its pattern, ready for reading lines. -/
structure CompiledRule where
  /-- The rule. -/
  rule : Rule
  /-- Its pattern occurs in a text. -/
  occursIn : String → Bool

/-- The rule with its pattern, for a rule that has one. -/
def Rule.compile? (engine : PatternEngine) (rule : Rule) :
    Option (Except Failure CompiledRule) :=
  rule.pattern.map fun text =>
    match engine.read text with
    | .ok occursIn => .ok ⟨rule, occursIn⟩
    | .error fault => .error (.badPattern rule.id fault)

/-- The result of compiling each enabled rule that has a pattern. -/
def compileResults (engine : PatternEngine) (rules : List Rule) :
    List (Except Failure CompiledRule) :=
  (rules.filter (·.enabled)).filterMap (·.compile? engine)

/-- The enabled rules that can run, and the failures of those that cannot. -/
def compileRules (engine : PatternEngine) (rules : List Rule) :
    List CompiledRule × List Failure :=
  let results := compileResults engine rules
  (results.filterMap fun result => match result with
      | .ok rule => some rule
      | .error _ => none,
    results.filterMap fun result => match result with
      | .ok _ => none
      | .error failure => some failure)

/-- The finding of a rule on a line.  A line with an asterisk in column 7 has none. -/
def CompiledRule.finding? (compiled : CompiledRule) (line : Line) : Option Issue :=
  if line.isComment || !compiled.occursIn line.raw then none
  else
    let rule := compiled.rule
    some
      { severity := rule.severity
        category := rule.category
        line := line.number
        rule := rule.id
        message := rule.message
        description := if rule.description.isEmpty then none else some rule.description
        suggestion := rule.suggestion
        snippet := some line.raw }

/-- The findings of the rules, line by line. -/
def checkRules (rules : List CompiledRule) (lines : List Line) : List Issue :=
  lines.flatMap fun line => rules.filterMap (·.finding? line)

end RpgLint
