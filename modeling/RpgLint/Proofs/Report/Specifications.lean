import RpgLint.Pattern.Reader
import RpgLint.Proofs.Line.Directives
import RpgLint.Proofs.Report.Places

/-!
# Findings on specifications

The order of specifications and their columns are checked on lines of code alone.  So a line that is
no code, such as most lines of directives, has no finding on either, and leaves the order as it is.
A directive that puts the letter of a type in column 6 is code to these checks.

## Main definitions

* `isSpecificationRule` — the rules on the order of specifications and on their columns.

## Main results

* `isCode_of_specification_issue` — findings under these rules are on lines of code.
* `directive_line_no_specification` — the lines of directives that have none.
-/

namespace RpgLint

/-- The rules on the order of specifications and on the columns of control, file, definition,
procedure and calculation lines. -/
def isSpecificationRule (rule : String) : Bool :=
  rule == "SPEC_ORDER" ||
    ["F_SPEC_", "D_SPEC_", "H_SPEC_", "P_SPEC_", "C_SPEC_"].any (startsWith rule)

/-- The rules of a check on either. -/
def areSpecificationRules (names : List String) : Bool :=
  [["SPEC_ORDER"], columnRules, definitionRules, ["F_SPEC_SPACING"]].contains names

/-- Such a check has rules on specifications only, and no other check has one. -/
theorem isSpecificationRule_eq_areSpecificationRules :
    ∀ names ∈ partNames, ∀ name ∈ names,
      isSpecificationRule name = areSpecificationRules names := by
  decide

section

variable {limit : LengthLimit} {level : Level} {lines : List Line}

theorem filter_checkParts_specifications :
    (checkParts limit level lines).filter (areSpecificationRules ·.1) =
      [(["SPEC_ORDER"], checkOrder lines), (columnRules, checkColumns level lines),
        (definitionRules, checkDefinitions level lines),
        (["F_SPEC_SPACING"], lines.filterMap fileNameSpacing?)] := by
  simp [checkParts, areSpecificationRules, columnRules, definitionRules, fieldRules, nameRules]

/-- Such a check writes on lines of code. -/
theorem written_on_code {part : List String × List Issue}
    (hpart : part ∈ checkParts limit level lines) (hnames : areSpecificationRules part.1) :
    WrittenIn (lines.filter Line.isCode) part.1 false Line.raw part.2 := by
  have hfour : part ∈ (checkParts limit level lines).filter (areSpecificationRules ·.1) :=
    List.mem_filter.mpr ⟨hpart, hnames⟩
  rw [filter_checkParts_specifications] at hfour
  simp only [List.mem_cons, List.not_mem_nil, or_false] at hfour
  rcases hfour with rfl | rfl | rfl | rfl
  · exact written_checkOrder lines
  · exact written_checkColumns level lines
  · exact written_checkDefinitions level lines
  · exact written_fileNameSpacing lines

end

/-- **Findings on specifications are on lines of code**, apart from those of the user's own
rules. -/
theorem isCode_of_specification_issue {options : CheckOptions} {scope : Scope}
    {path : Option String} {source : String} {issue : Issue}
    (hissue : issue ∈ (check options scope path source).issues)
    (hown : issue ∉ checkRules (options.rulesIn scope) (classify source))
    (hrule : isSpecificationRule issue.rule) {line : Line} (hline : line ∈ classify source)
    (hnumber : issue.line = line.number) : line.isCode := by
  cases hsentinel : hasFreeSentinel (classify source) with
  | true =>
    obtain ⟨sentinel, -, -, hissues⟩ := issues_check_of_sentinel options scope path hsentinel
    rw [hissues, List.mem_singleton] at hissue
    -- the one finding on a sentinel is under none of the rules
    rw [hissue] at hrule
    exact absurd hrule (by simp [unsupportedFreeForm]; decide)
  | false =>
    have hscope := ((mem_issues_check_of_fixed options scope path hsentinel).mp hissue).1
    have hbuilt := ((mem_scopeIssues_iff options scope _).mp hscope).resolve_right hown
    obtain ⟨level, part, hpart, hmem⟩ := exists_part_of_mem_scopeIssues options scope _ hbuilt
    -- so the finding is of one of the four checks, which write on lines of code
    have hnames :=
      rule_eq_of_mem_checkParts options.limit level _ isSpecificationRule_eq_areSpecificationRules
        part hpart issue hmem
    obtain ⟨other, hother, hwritten⟩ := written_on_code hpart (hnames ▸ hrule) issue hmem
    obtain ⟨hmember, hcode⟩ := List.mem_filter.mp hother
    have hsame : line = other := eq_of_number_eq hline hmember (hnumber.symm.trans hwritten.line_eq)
    exact hsame ▸ hcode

/-- A line that is no code leaves the order of specifications as it is, and has no finding on it. -/
theorem OrderState.step_of_not_code {line : Line} (h : line.isCode = false) (state : OrderState) :
    state.step line = (state, none) := by
  rw [OrderState.step, h]
  rfl

/-- **The lines of directives are no specifications**, except those that have the letter of a type
in column 6.  A directive line is code exactly then; and if it is not, it leaves every state of the
order as it is, and wherever it stands it has no finding under the rules on specifications but those
of the user's own rules. -/
theorem directive_line_no_specification {number : Nat} {raw : String} {directive : Directive}
    (h : (Line.classify number raw).directive? = some directive) :
    let line := Line.classify number raw
    (line.isCode ↔ directive.Lettered raw) ∧
      (¬directive.Lettered raw →
        (∀ state : OrderState, state.step line = (state, none)) ∧
        ∀ (options : CheckOptions) (scope : Scope) (path : Option String) (source : String),
          line ∈ classify source →
            ∀ issue ∈ (check options scope path source).issues, issue.line = line.number →
              issue ∉ checkRules (options.rulesIn scope) (classify source) →
                issue.rule ≠ "SPEC_ORDER" ∧
                ∀ word ∈ ["F_SPEC_", "D_SPEC_", "H_SPEC_", "P_SPEC_", "C_SPEC_"],
                  startsWith issue.rule word = false) := by
  intro line
  have hiff : line.isCode ↔ directive.Lettered raw := isCode_iff_of_directive h
  refine ⟨hiff, fun hletter => ?_⟩
  have hcode : line.isCode = false := by
    rw [Bool.eq_false_iff, ne_eq, hiff]
    exact hletter
  refine ⟨OrderState.step_of_not_code hcode,
    fun options scope path source hline issue hissue hnumber hown => ?_⟩
  have hrule : isSpecificationRule issue.rule = false := by
    rw [Bool.eq_false_iff]
    -- a finding on specifications would make the line code
    intro hspecification
    rw [isCode_of_specification_issue hissue hown hspecification hline hnumber] at hcode
    cases hcode
  rw [isSpecificationRule, Bool.or_eq_false_iff, beq_eq_false_iff_ne, List.any_eq_false] at hrule
  exact ⟨hrule.1, fun word hword => Bool.eq_false_iff.mpr (hrule.2 word hword)⟩

/-- A free block between calculations, indented as usual. -/
theorem directive_line_no_specification_indented :
    let source := "     C                   EVAL      X = 1\n       /FREE\n       /END-FREE"
    let line := Line.classify 2 "       /FREE"
    line.directive? = some .free ∧ ¬Directive.Lettered "       /FREE" .free ∧
      line ∈ classify source ∧
      line.isCode = false ∧ (∀ state : OrderState, state.step line = (state, none)) ∧
      (∃ issue ∈ (check {} .all none source).issues, issue.line = line.number) ∧
      ∀ issue ∈ (check {} .all none source).issues, issue.line = line.number →
        issue.rule ≠ "SPEC_ORDER" ∧
          ∀ word ∈ ["F_SPEC_", "D_SPEC_", "H_SPEC_", "P_SPEC_", "C_SPEC_"],
            startsWith issue.rule word = false := by
  intro source line
  have hdirective : line.directive? = some .free := by decide
  have hindent : indent "       /FREE" = 7 := by decide
  have hletter : ¬Directive.Lettered "       /FREE" .free := by
    simp [Directive.Lettered, Directive.letterIndents, hindent]
  have hline : line ∈ classify source := by decide
  have hfixed : hasFreeSentinel (classify source) = false := by decide
  have hlisted : ∃ issue ∈ scopeIssues {} (classify source) .all, issue.line = line.number := by
    decide +kernel
  obtain ⟨issue, hissue, hnumber⟩ := hlisted
  have hreported := (mem_issues_check_of_fixed {} .all none hfixed).mpr ⟨hissue, List.not_mem_nil⟩
  obtain ⟨hcode, hall⟩ := directive_line_no_specification hdirective
  obtain ⟨hstep, hnone⟩ := hall hletter
  refine ⟨hdirective, hletter, hline, Bool.eq_false_iff.mpr (hletter ∘ hcode.mp), hstep,
    ⟨issue, hreported, hnumber⟩, fun other hother hon => ?_⟩
  exact hnone {} .all none source hline other hother hon
    (by simp [CheckOptions.rulesIn, checkRules])

/-- Behind four blanks the `F` of `/FREE` makes a file specification of the line, which is out of
order after a calculation; and a rule of the user may have the name of a rule on specifications. -/
theorem directive_line_taken_for_specification :
    (let source := "     C                   EVAL      X = 1\n    /FREE"
      ∃ line ∈ classify source, line.directive? = some .free ∧ line.isCode ∧
        (∃ state : OrderState, state.step line ≠ (state, none)) ∧
        ∃ issue ∈ (check {} .all none source).issues,
          issue.rule = "SPEC_ORDER" ∧ issue.line = line.number) ∧
      let source := "       /FREE"
      let rules := (compileRules Pattern.engine [
        { id := "SPEC_ORDER", name := "No free blocks", category := .bestPractice,
          severity := .info, pattern := some "/", message := "Free block found" }]).1
      ∃ line ∈ classify source, line.directive? = some .free ∧ line.isCode = false ∧
        ∃ issue ∈ (check { rules := rules } .all none source).issues,
          issue.rule = "SPEC_ORDER" ∧ issue.line = line.number := by
  constructor
  · intro source
    have hfixed : hasFreeSentinel (classify source) = false := by decide
    have hlisted : ∃ line ∈ classify source, line.directive? = some .free ∧ line.isCode ∧
        (OrderState.step {} line).1 ≠ {} ∧
        ∃ issue ∈ scopeIssues {} (classify source) .all,
          issue.rule = "SPEC_ORDER" ∧ issue.line = line.number := by
      decide
    obtain ⟨line, hline, hdirective, hcode, hstep, issue, hissue, hnames⟩ := hlisted
    exact ⟨line, hline, hdirective, hcode,
      ⟨{}, fun hsame => hstep (congrArg Prod.fst hsame)⟩, issue,
      (mem_issues_check_of_fixed {} .all none hfixed).mpr ⟨hissue, List.not_mem_nil⟩, hnames⟩
  · intro source rules
    have hfixed : hasFreeSentinel (classify source) = false := by decide
    have hlisted : ∃ line ∈ classify source, line.directive? = some .free ∧ line.isCode = false ∧
        ∃ issue ∈ scopeIssues { rules := rules } (classify source) .all,
          issue.rule = "SPEC_ORDER" ∧ issue.line = line.number := by
      decide +kernel
    obtain ⟨line, hline, hdirective, hcode, issue, hissue, hnames⟩ := hlisted
    exact ⟨line, hline, hdirective, hcode, issue,
      (mem_issues_check_of_fixed { rules := rules } .all none hfixed).mpr
        ⟨hissue, List.not_mem_nil⟩, hnames⟩

end RpgLint
