import RpgLint.Pattern.Reader
import RpgLint.Proofs.Check.CommentArea
import RpgLint.Proofs.Line.Classification
import RpgLint.Proofs.Report.Scopes

/-!
# Comments and the checks of what a line says

Three checks read what a line says, whatever its type: that of statements, that of numbered
indicators, and the rules of the user.  A comment says nothing, and all three pass over the lines
with an asterisk in column 7.  A line with the asterisk in column 6 is a comment too, but to these
checks it is a line like any other.

## Main definitions

* `contentIssues` — what the three checks find in a scope.
* `lineContent` — the same on one line.
* `Line.Silent` — a line that gives the three checks nothing to report.

## Main results

* `mem_scopeIssues_content_iff` — the findings of the three checks among those of a scope.
* `lineContent_of_isComment` — no check of the three reads a line with an asterisk in column 7.
* `comments_have_no_content_iff` — when comments have no findings of these checks.
-/

namespace RpgLint

/-! ### The checks of what a line says -/

namespace CheckOptions

variable (options : CheckOptions)

/-- The check of statements runs in the scope. -/
def readsStatements : Scope → Bool
  | .all => options.level.atLeastStandard
  | _ => false

/-- The check of numbered indicators does. -/
def readsIndicators : Scope → Bool
  | .all => options.level.atLeastStandard
  | .bestPractice => true
  | _ => false

/-- The rules of the user that do. -/
def rulesIn : Scope → List CompiledRule
  | .all | .bestPractice => options.rules
  | _ => []

end CheckOptions

/-- The rules of the checks of statements and of numbered indicators. -/
def isContentRule (rule : String) : Bool := ["MULTIPLE_STATEMENTS", "INDICATOR_USAGE"].contains rule

/-- What these two checks find in a scope. -/
def ownContent (options : CheckOptions) (scope : Scope) (lines : List Line) : List Issue :=
  (if options.readsStatements scope then checkMultipleStatements lines else []) ++
    if options.readsIndicators scope then checkIndicators lines else []

/-- What they and the rules of the user find. -/
def contentIssues (options : CheckOptions) (scope : Scope) (lines : List Line) : List Issue :=
  ownContent options scope lines ++ checkRules (options.rulesIn scope) lines

/-- A finding of one of the two checks, by its rule, or of a rule of the user. -/
def IsContentIssue (options : CheckOptions) (scope : Scope) (lines : List Line) (issue : Issue) :
    Prop :=
  isContentRule issue.rule ∨ issue ∈ checkRules (options.rulesIn scope) lines

/-! ### Their findings in a scope -/

/-- The rules of one of the two checks. -/
def areContentRules (names : List String) : Bool :=
  [["MULTIPLE_STATEMENTS"], ["INDICATOR_USAGE"]].contains names

theorem isContentRule_eq_areContentRules :
    ∀ names ∈ partNames, ∀ name ∈ names, isContentRule name = areContentRules names := by
  decide

theorem filter_checkParts_content (limit : LengthLimit) (level : Level) (lines : List Line) :
    (checkParts limit level lines).filter (areContentRules ·.1) =
      [(["MULTIPLE_STATEMENTS"],
          if level.atLeastStandard then checkMultipleStatements lines else []),
        (["INDICATOR_USAGE"], if level.atLeastStandard then checkIndicators lines else [])] := by
  simp [checkParts, areContentRules, columnRules, definitionRules, fieldRules, nameRules]

/-- The checks on the layout have neither rule, at whatever level a scope runs them. -/
theorem filter_layoutPass_content (limit : LengthLimit) (level : Level) (lines : List Line)
    (p : Issue → Bool) :
    ((layoutPass limit level lines).filter p).filter (isContentRule ·.rule) = [] := by
  have hnames : NamesOnly (partNames.take 4).flatten ((layoutPass limit level lines).filter p) :=
    fun issue hissue => namesOnly_layoutPass _ _ lines issue (List.mem_filter.mp hissue).1
  exact hnames.filter_rule_eq_nil (r := isContentRule) (by decide)

/-- The scope of practice runs the check of indicators between two checks that are neither. -/
theorem filter_practicePass_content (lines : List Line) :
    (practicePass [] .standard lines).filter (isContentRule ·.rule) = checkIndicators lines := by
  have hpass : practicePass [] .standard lines =
      checkDeprecated lines ++ (checkIndicators lines ++ checkJumps lines) := by
    simp [practicePass, checkRules, Level.atLeastStandard, Level.isStrict]
  have hdeprecated :=
    (written_checkDeprecated lines).namesOnly.filter_rule_eq_nil (r := isContentRule)
      (by decide)
  have hindicators :=
    (written_checkIndicators lines).namesOnly.filter_rule_eq_self (r := isContentRule)
      (by decide)
  have hjumps :=
    (written_checkJumps lines).namesOnly.filter_rule_eq_nil (r := isContentRule)
      (by decide)
  rw [hpass, List.filter_append, List.filter_append, hdeprecated, hindicators, hjumps,
    List.nil_append, List.append_nil]

section

variable (options : CheckOptions) (scope : Scope) (lines : List Line)

/-- Without rules of the user, the two checks are found by their rules. -/
theorem filter_content :
    (scopeIssues { options with rules := [] } lines scope).filter (isContentRule ·.rule) =
      ownContent options scope lines := by
  cases scope with
  | all =>
    -- of all checks the two are those with the two rules
    have hall :=
      (filter_rule_checkParts options.limit options.level lines isContentRule_eq_areContentRules).1
    have hnone : CheckOptions.rules { options with rules := [] } = [] := rfl
    have hparts := allIssues_eq_checkParts lines hnone
    rw [filter_checkParts_content] at hall
    simp only [scopeIssues, hparts, hall, List.flatMap_cons, List.flatMap_nil, List.append_nil]
    rfl
  | order => exact filter_layoutPass_content options.limit .basic lines _
  | columns => exact filter_layoutPass_content options.limit .standard lines _
  | naming =>
    have hnames := (written_checkNames .standard lines).namesOnly
    exact hnames.filter_rule_eq_nil (r := isContentRule) (by decide)
  | bestPractice =>
    -- indicators are checked whatever the level of the options
    exact filter_practicePass_content lines

/-- The findings of the user's rules stand beside the others. -/
theorem mem_scopeIssues_iff {issue : Issue} :
    issue ∈ scopeIssues options lines scope ↔
      issue ∈ scopeIssues { options with rules := [] } lines scope ∨
        issue ∈ checkRules (options.rulesIn scope) lines := by
  have hnone : checkRules [] lines = [] := by simp [checkRules]
  cases scope with
  | all =>
    -- the rules of the user come in the middle of a full check
    simp only [scopeIssues, allIssues, practicePass, CheckOptions.rulesIn, List.mem_append, hnone]
    tauto
  | bestPractice =>
    -- and at the end of the pass that the scope of practice is
    simp only [scopeIssues, practicePass, CheckOptions.rulesIn, List.mem_append, hnone]
    tauto
  | _ =>
    simp only [scopeIssues, CheckOptions.rulesIn, hnone, List.not_mem_nil, or_false]

/-- The findings of the three checks among those of a scope. -/
theorem mem_scopeIssues_content_iff {issue : Issue} :
    issue ∈ scopeIssues options lines scope ∧ IsContentIssue options scope lines issue ↔
      issue ∈ contentIssues options scope lines := by
  have hown : issue ∈ ownContent options scope lines ↔
      issue ∈ scopeIssues { options with rules := [] } lines scope ∧ isContentRule issue.rule := by
    rw [← filter_content, List.mem_filter]
  rw [contentIssues, List.mem_append, hown, mem_scopeIssues_iff, IsContentIssue]
  tauto

end

/-! ### Their findings line by line -/

/-- What the three checks find on a line, in a free block or not. -/
def lineContent (options : CheckOptions) (scope : Scope) (inFreeBlock : Bool) (line : Line) :
    List Issue :=
  (if options.readsStatements scope then multipleStatements false inFreeBlock line else []) ++
    (if options.readsIndicators scope then lineIndicators line else []) ++
    (options.rulesIn scope).filterMap (·.finding? line)

section

variable {options : CheckOptions} {scope : Scope} {inFreeBlock : Bool} {line : Line}

/-- No check of the three reads a line with an asterisk in column 7. -/
theorem lineContent_of_isComment (hcomment : line.isComment) :
    lineContent options scope inFreeBlock line = [] := by
  have hstatements : multipleStatements false inFreeBlock line = [] := by
    simp [multipleStatements, hcomment]
  have hindicators : lineIndicators line = [] := by simp [lineIndicators, hcomment]
  have hrules : (options.rulesIn scope).filterMap (·.finding? line) = [] := by
    simp [CompiledRule.finding?, hcomment]
  -- behind their gates the three lists are empty
  rw [lineContent, hstatements, hindicators, hrules, ite_self, ite_self]
  rfl

/-- The findings of the three checks name the line that they are on. -/
theorem line_eq_of_mem_lineContent {issue : Issue}
    (h : issue ∈ lineContent options scope inFreeBlock line) :
    issue.line = line.number := by
  simp only [lineContent, List.mem_append, List.mem_filterMap] at h
  rcases h with (hstatement | hindicator) | ⟨compiled, -, hfinding⟩
  · simp only [multipleStatements] at hstatement
    grind [multipleStatementsIssue]
  · simp only [lineIndicators] at hindicator
    grind [indicatorIssue]
  · simp only [CompiledRule.finding?] at hfinding
    grind

end

/-- The three checks read line by line, the first of them knowing about free blocks. -/
theorem mem_contentIssues_iff (options : CheckOptions) (scope : Scope) {lines : List Line}
    (hfixed : hasFreeSentinel lines = false) {issue : Issue} :
    issue ∈ contentIssues options scope lines ↔
      ∃ p ∈ flagged false lines, issue ∈ lineContent options scope p.1 p.2 := by
  -- two of the checks have no use for the flag
  have hlines : ∀ f : Line → List Issue,
      issue ∈ lines.flatMap f ↔ ∃ p ∈ flagged false lines, issue ∈ f p.2 := by
    intro f
    have hmap : lines.flatMap f = (flagged false lines).flatMap fun p => f p.2 := by
      rw [← map_snd_flagged false lines, List.flatMap_map, map_snd_flagged]
    rw [hmap, List.mem_flatMap]
  have hstatements : issue ∈ checkMultipleStatements lines ↔
      ∃ p ∈ flagged false lines, issue ∈ multipleStatements false p.1 p.2 := by
    rw [checkMultipleStatements_eq hfixed, List.mem_flatMap]
  have hgate : ∀ (gate : Bool) (issues : List Issue),
      issue ∈ (if gate then issues else []) ↔ gate = true ∧ issue ∈ issues := by
    intro gate issues
    cases gate <;> simp
  simp only [contentIssues, ownContent, lineContent, checkIndicators, checkRules, List.mem_append,
    hgate, hstatements, hlines]
  grind

/-! ### Comments marked in column 6 -/

/-- A line gives the three checks nothing to report, as far as they run and their rules are not
disabled. -/
structure Line.Silent (options : CheckOptions) (scope : Scope) (inFreeBlock : Bool) (line : Line) :
    Prop where
  /-- In a free block it has one statement at most, or is a directive. -/
  statements : options.readsStatements scope → "MULTIPLE_STATEMENTS" ∉ options.disabled →
    inFreeBlock → line.directive? = none → semicolons line.raw ≤ 1
  /-- It has no numbered indicator. -/
  indicators : options.readsIndicators scope → "INDICATOR_USAGE" ∉ options.disabled →
    indicatorUses line.raw = []
  /-- It has nothing that a rule of the user looks for. -/
  rules : ∀ compiled ∈ options.rulesIn scope, compiled.rule.id ∉ options.disabled →
    compiled.occursIn line.raw = false

/-- Findings of one rule behind a gate are all disabled when the gate is shut, the rule is, or there
are none. -/
theorem NamesOnly.gate_disabled_iff {rule : String} {issues : List Issue}
    (h : NamesOnly [rule] issues) (gate : Bool) (disabled : List String) :
    (∀ issue ∈ (if gate then issues else []), issue.rule ∈ disabled) ↔
      (gate → rule ∉ disabled → issues = []) := by
  cases gate with
  | false => simp
  | true =>
    simp only [if_true, forall_const]
    constructor
    · -- the rule of a finding would be disabled, and it is the one rule
      intro hall hrule
      rw [List.eq_nil_iff_forall_not_mem]
      intro issue hissue
      have hdisabled := hall issue hissue
      rw [List.mem_singleton.mp (h issue hissue)] at hdisabled
      exact hrule hdisabled
    · intro hnil issue hissue
      by_contra hrule
      rw [List.mem_singleton.mp (h issue hissue)] at hrule
      rw [hnil hrule] at hissue
      exact List.not_mem_nil hissue

theorem namesOnly_lineIndicators (line : Line) :
    NamesOnly ["INDICATOR_USAGE"] (lineIndicators line) := by
  have hline := (written_checkIndicators [line]).namesOnly
  rwa [checkIndicators, List.flatMap_singleton] at hline

theorem rule_eq_of_finding? {compiled : CompiledRule} {line : Line} {issue : Issue}
    (h : compiled.finding? line = some issue) : issue.rule = compiled.rule.id := by
  rw [CompiledRule.finding?] at h
  split at h
  · cases h
  · rw [← Option.some.inj h]

section

variable {line : Line} (hcomment : line.isComment = false)

include hcomment

theorem lineIndicators_eq_nil_iff : lineIndicators line = [] ↔ indicatorUses line.raw = [] := by
  rw [lineIndicators, hcomment, if_neg Bool.false_ne_true, List.map_eq_nil_iff]

theorem isSome_finding? (compiled : CompiledRule) :
    (compiled.finding? line).isSome = compiled.occursIn line.raw := by
  rw [CompiledRule.finding?, hcomment, Bool.false_or]
  cases compiled.occursIn line.raw <;> rfl

/-- The findings of rules are all disabled when those rules are that find something. -/
theorem findings_disabled_iff (rules : List CompiledRule) (disabled : List String) :
    (∀ issue ∈ rules.filterMap (·.finding? line), issue.rule ∈ disabled) ↔
      ∀ compiled ∈ rules, compiled.rule.id ∉ disabled →
        compiled.occursIn line.raw = false := by
  constructor
  · -- a rule that finds something has a finding, which bears its name
    intro hall compiled hcompiled hid
    rw [← isSome_finding? hcomment, Option.isSome_eq_false_iff, Option.isNone_iff_eq_none,
      Option.eq_none_iff_forall_not_mem]
    intro issue hfinding
    have hdisabled := hall issue (List.mem_filterMap.mpr ⟨compiled, hcompiled, hfinding⟩)
    rw [rule_eq_of_finding? hfinding] at hdisabled
    exact hid hdisabled
  · intro hsilent issue hissue
    obtain ⟨compiled, hcompiled, hfinding⟩ := List.mem_filterMap.mp hissue
    by_contra hrule
    rw [rule_eq_of_finding? hfinding] at hrule
    have hnone := hsilent compiled hcompiled hrule
    rw [← isSome_finding? hcomment, hfinding] at hnone
    cases hnone

variable (hspec : line.spec = .comment)

include hspec

theorem multipleStatements_eq_nil_iff (inFreeBlock : Bool) :
    multipleStatements false inFreeBlock line = [] ↔
      (inFreeBlock → line.directive? = none → semicolons line.raw ≤ 1) := by
  have hcalculation : (line.spec == .calculation) = false := by
    rw [hspec]
    rfl
  rw [multipleStatements, hcomment, hcalculation]
  cases inFreeBlock <;> cases line.directive? <;> simp

/-- A silent line has no finding, but under disabled rules. -/
theorem silent_iff (options : CheckOptions) (scope : Scope) (inFreeBlock : Bool) :
    line.Silent options scope inFreeBlock ↔
      ∀ issue ∈ lineContent options scope inFreeBlock line, issue.rule ∈ options.disabled := by
  have hstatements :=
    (written_multipleStatements false inFreeBlock line).namesOnly.gate_disabled_iff
      (options.readsStatements scope) options.disabled
  have hindicators := (namesOnly_lineIndicators line).gate_disabled_iff
    (options.readsIndicators scope) options.disabled
  have hrules := findings_disabled_iff hcomment (options.rulesIn scope) options.disabled
  rw [multipleStatements_eq_nil_iff hcomment hspec] at hstatements
  rw [lineIndicators_eq_nil_iff hcomment] at hindicators
  -- the findings of a line are those of the three checks, each behind its gate
  rw [lineContent, List.forall_mem_append, List.forall_mem_append, hstatements, hindicators, hrules]
  constructor
  · intro hsilent
    exact ⟨⟨hsilent.statements, hsilent.indicators⟩, hsilent.rules⟩
  · rintro ⟨⟨hstatement, hindicator⟩, hrule⟩
    exact ⟨hstatement, hindicator, hrule⟩

end

/-! ### The report -/

theorem mem_of_mem_flagged {inFreeBlock : Bool} {lines : List Line} {p : Bool × Line}
    (h : p ∈ flagged inFreeBlock lines) : p.2 ∈ lines := by
  rw [← map_snd_flagged inFreeBlock lines]
  exact List.mem_map_of_mem h

section

variable (options : CheckOptions) (scope : Scope) (path : Option String) {source : String}
  (hfixed : hasFreeSentinel (classify source) = false)

include hfixed

/-- The findings of the three checks that are reported. -/
theorem mem_issues_check_content_iff {issue : Issue} :
    issue ∈ (check options scope path source).issues ∧
        IsContentIssue options scope (classify source) issue ↔
      issue.rule ∉ options.disabled ∧
        ∃ p ∈ flagged false (classify source), issue ∈ lineContent options scope p.1 p.2 := by
  have hcontent := @mem_scopeIssues_content_iff options scope (classify source) issue
  rw [mem_contentIssues_iff options scope hfixed] at hcontent
  rw [mem_issues_check_of_fixed options scope path hfixed, ← hcontent]
  tauto

/-- No finding of the three checks is reported on lines of a kind exactly when all those that they
have are disabled. -/
theorem content_avoids_iff (kind : Line → Prop) :
    (∀ issue ∈ (check options scope path source).issues,
      IsContentIssue options scope (classify source) issue →
        ∀ line ∈ classify source, kind line → issue.line ≠ line.number) ↔
      ∀ p ∈ flagged false (classify source), kind p.2 →
        ∀ issue ∈ lineContent options scope p.1 p.2, issue.rule ∈ options.disabled := by
  constructor
  · intro havoids p hp hkind issue hissue
    by_contra hrule
    -- a finding that is not disabled would be reported on its own line
    obtain ⟨hreported, hcontent⟩ :=
      (mem_issues_check_content_iff options scope path hfixed).mpr ⟨hrule, p, hp, hissue⟩
    exact havoids issue hreported hcontent p.2 (mem_of_mem_flagged hp) hkind
      (line_eq_of_mem_lineContent hissue)
  · intro hdisabled issue hreported hcontent line hline hkind hnumber
    obtain ⟨hrule, p, hp, hissue⟩ :=
      (mem_issues_check_content_iff options scope path hfixed).mp ⟨hreported, hcontent⟩
    have hat : p.2.number = line.number := (line_eq_of_mem_lineContent hissue).symm.trans hnumber
    -- a reported finding is on the line with its number, and numbers tell lines apart
    have hsame : p.2 = line := eq_of_number_eq (mem_of_mem_flagged hp) hline hat
    exact hrule (hdisabled p hp (hsame ▸ hkind) issue hissue)

/-- **When comments are passed over.**  On a member without a sentinel, in every scope, no finding
of the checks of statements, of numbered indicators or of the user's rules is on a line with an
asterisk in column 7.  None is on any comment exactly when those with the asterisk in column 6 alone
give the checks nothing to report. -/
theorem comments_have_no_content_iff :
    let lines := classify source
    let avoids := fun kind : Line → Prop =>
      ∀ issue ∈ (check options scope path source).issues, IsContentIssue options scope lines issue →
        ∀ line ∈ lines, kind line → issue.line ≠ line.number
    avoids (fun line => line.isComment) ∧
      (avoids (fun line => line.isAnyComment) ↔
        ∀ p ∈ flagged false lines, p.2.spec = .comment → p.2.isComment = false →
          p.2.Silent options scope p.1) := by
  intro lines avoids
  constructor
  · refine (content_avoids_iff options scope path hfixed _).mpr fun p _ hcomment issue hissue => ?_
    -- nothing is found on a line with the asterisk in column 7
    rw [lineContent_of_isComment hcomment] at hissue
    exact absurd hissue List.not_mem_nil
  · refine (content_avoids_iff options scope path hfixed _).trans (forall₂_congr fun p _ => ?_)
    constructor
    · intro hdisabled hspec hcomment
      rw [silent_iff hcomment hspec]
      refine hdisabled ?_
      rw [Line.isAnyComment, hspec, beq_self_eq_true, Bool.or_true]
    · intro hsilent hany issue hissue
      -- one with both asterisks is passed over as well
      cases hcomment : p.2.isComment with
      | true =>
        rw [lineContent_of_isComment hcomment] at hissue
        exact absurd hissue List.not_mem_nil
      | false =>
        rw [Line.isAnyComment, hcomment, Bool.false_or, beq_iff_eq] at hany
        exact (silent_iff hcomment hany options scope p.1).mp (hsilent hany hcomment) issue hissue

end

/-- A calculation out of use in front of a remark, with a rule of the user's own against
semicolons. -/
theorem comments_have_no_content_remark :
    let source := "     C* *IN03 a; b;\n     * Semicolons, no more"
    let rules := (compileRules Pattern.engine [
      { id := "NO_SEMICOLON", name := "No semicolons", category := .bestPractice, severity := .info,
        pattern := some ";", message := "Semicolon found" }]).1
    hasFreeSentinel (classify source) = false ∧ rules.length = 1 ∧
      ∀ issue ∈ (check { rules := rules } .all none source).issues,
        IsContentIssue { rules := rules } .all (classify source) issue →
          ∀ line ∈ classify source, line.isAnyComment → issue.line ≠ line.number := by
  intro source rules
  have hfixed : hasFreeSentinel (classify source) = false := by decide
  have hrules : rules.length = 1 := by decide +kernel
  have hsemicolons : ∀ line ∈ classify source, line.spec = .comment → semicolons line.raw ≤ 1 := by
    decide +kernel
  have hindicators : ∀ line ∈ classify source, line.spec = .comment →
      indicatorUses line.raw = [] := by
    decide
  have hown : ∀ line ∈ classify source, line.spec = .comment → ∀ compiled ∈ rules,
      compiled.occursIn line.raw = false := by
    decide +kernel
  refine ⟨hfixed, hrules,
    (comments_have_no_content_iff { rules := rules } .all none hfixed).2.mpr ?_⟩
  intro p hp hspec _
  have hline := mem_of_mem_flagged hp
  constructor
  · exact fun _ _ _ _ => hsemicolons p.2 hline hspec
  · exact fun _ _ => hindicators p.2 hline hspec
  · exact fun compiled hcompiled _ => hown p.2 hline hspec compiled hcompiled

/-- In a free block, each of the three checks reports on a comment marked in column 6. -/
theorem content_checks_read_comment :
    let source := "       /FREE\n     * a; b; *IN03\n       /END-FREE"
    let rules := (compileRules Pattern.engine [
      { id := "NO_SEMICOLON", name := "No semicolons", category := .bestPractice, severity := .info,
        pattern := some ";", message := "Semicolon found" }]).1
    hasFreeSentinel (classify source) = false ∧
      ∃ line ∈ classify source, line.spec = .comment ∧
        ∀ rule ∈ ["MULTIPLE_STATEMENTS", "INDICATOR_USAGE", "NO_SEMICOLON"],
          ∃ issue ∈ (check { rules := rules } .all none source).issues,
            issue.rule = rule ∧ issue.line = line.number := by
  intro source rules
  have hfixed : hasFreeSentinel (classify source) = false := by decide
  have hlisted : ∃ line ∈ classify source, line.spec = .comment ∧
      ∀ rule ∈ ["MULTIPLE_STATEMENTS", "INDICATOR_USAGE", "NO_SEMICOLON"],
        ∃ issue ∈ scopeIssues { rules := rules } (classify source) .all,
          issue.rule = rule ∧ issue.line = line.number := by
    decide +kernel
  obtain ⟨line, hline, hspec, hissues⟩ := hlisted
  refine ⟨hfixed, line, hline, hspec, fun rule hrule => ?_⟩
  obtain ⟨issue, hissue, hnames⟩ := hissues rule hrule
  exact ⟨issue, (mem_issues_check_of_fixed { rules := rules } .all none hfixed).mpr
    ⟨hissue, List.not_mem_nil⟩, hnames⟩

end RpgLint
