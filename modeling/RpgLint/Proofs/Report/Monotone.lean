import Mathlib.Data.List.Flatten
import RpgLint.Pattern.Reader
import RpgLint.Proofs.Report.Sorting

/-!
# More rules, more findings

A higher level and more rules of the user never take a finding away: what is reported at a level and
with some rules is reported, in the same relative order, at every higher level and with every list
of rules that contains them.  Each check is compared with itself at the two levels, from the checks
of one line up to the passes, and the report then only drops findings by their rule and sorts the
rest.

## Main results

* `allIssues_sublist` — the findings of all passes.
* `check_sublist_of_level_le` — the findings of the report, their numbers, and the verdict.
-/

namespace RpgLint

/-- Findings behind a gate, when the gate of more findings opens whenever that of fewer does. -/
theorem gate_sublist {few many : List Issue} {low high : Bool} (hgate : low → high)
    (h : few.Sublist many) : (if low then few else []).Sublist (if high then many else []) := by
  cases hlow : low with
  | false => exact List.nil_sublist _
  | true =>
    rw [if_pos rfl, if_pos (hgate hlow)]
    exact h

/-- Findings on a line that may be left out altogether, whatever the level. -/
theorem skip_sublist (skip : Bool) {few many : List Issue} (h : few.Sublist many) :
    (if skip then [] else few).Sublist (if skip then [] else many) := by
  cases skip with
  | true => exact List.nil_sublist _
  | false => exact h

/-- Findings that a line may lack because of itself or because of the level. -/
theorem skip_or_gate_sublist (skip : Bool) {few many : List Issue} {low high : Bool}
    (hgate : low → high) (h : few.Sublist many) :
    (if skip || !low then [] else few).Sublist (if skip || !high then [] else many) := by
  cases skip with
  | true => exact List.nil_sublist _
  | false =>
    cases hlow : low with
    | false => exact List.nil_sublist _
    | true =>
      rw [hgate hlow]
      exact h

/-- A gate with a further condition of its own. -/
theorem and_mono {low high condition : Bool} (h : low → high) :
    (low && condition) → (high && condition) := by
  rw [Bool.and_eq_true, Bool.and_eq_true]
  exact And.imp_left h

section Checks

variable {low high : Level}

/-! ### Layout -/

theorem checkLineColumns_sublist (h : low ≤ high) (line : Line) :
    (checkLineColumns low line).Sublist (checkLineColumns high line) := by
  unfold checkLineColumns
  refine skip_sublist _ ?_
  cases line.spec with
  | control =>
    -- that some keyword is missing is said at the strict level only
    exact List.Sublist.append (.refl _) (gate_sublist (Level.isStrict_mono h) (.refl _))
  | file =>
    exact List.Sublist.append (.refl _)
      (skip_or_gate_sublist _ (Level.atLeastStandard_mono h) (.refl _))
  | procedure =>
    exact List.Sublist.append (.refl _)
      (skip_or_gate_sublist _ (Level.atLeastStandard_mono h) (.refl _))
  | _ => exact List.Sublist.refl _

theorem checkColumns_sublist (h : low ≤ high) (lines : List Line) :
    (checkColumns low lines).Sublist (checkColumns high lines) :=
  List.Sublist.flatMap_right lines fun line _ => checkLineColumns_sublist h line

theorem Definition.checkFields_sublist (h : low ≤ high) (line : Line) :
    (checkFields low line).Sublist (checkFields high line) := by
  unfold checkFields
  refine List.Sublist.append (List.Sublist.append (List.Sublist.append (.refl _) ?_) (.refl _)) ?_
  · exact gate_sublist (Level.atLeastStandard_mono h) (.refl _)
  · exact gate_sublist (Level.isStrict_mono h) (.refl _)

theorem checkDefinition_sublist (h : low ≤ high) (line : Line) :
    (checkDefinition low line).Sublist (checkDefinition high line) := by
  unfold checkDefinition
  refine skip_sublist _ (List.Sublist.append (.refl _) ?_)
  -- a line that continues another has no checks with a level
  cases line.continuation with
  | some kind => cases kind <;> exact List.Sublist.refl _
  | none =>
    by_cases hname : continuesName line.raw
    · rw [if_pos hname, if_pos hname]
      exact gate_sublist (Level.atLeastStandard_mono h) (.refl _)
    · rw [if_neg hname, if_neg hname]
      exact Definition.checkFields_sublist h line

theorem checkDefinitions_sublist (h : low ≤ high) (lines : List Line) :
    (checkDefinitions low lines).Sublist (checkDefinitions high lines) :=
  List.Sublist.flatMap_right _ fun line _ => checkDefinition_sublist h line

theorem layoutPass_sublist (h : low ≤ high) (limit : LengthLimit) (lines : List Line) :
    (layoutPass limit low lines).Sublist (layoutPass limit high lines) := by
  unfold layoutPass
  refine List.Sublist.append (List.Sublist.append (List.Sublist.append (.refl _) ?_) ?_) (.refl _)
  · exact checkColumns_sublist h lines
  · exact checkDefinitions_sublist h lines

/-! ### Statements -/

theorem syntaxPass_sublist (h : low ≤ high) (lines : List Line) :
    (syntaxPass low lines).Sublist (syntaxPass high lines) := by
  unfold syntaxPass
  refine List.Sublist.append (List.Sublist.append (List.Sublist.append (.refl _) ?_) (.refl _)) ?_
  · exact gate_sublist (Level.atLeastStandard_mono h) (.refl _)
  · exact gate_sublist (Level.isStrict_mono h) (.refl _)

/-! ### Names -/

theorem checkVariableName_sublist (h : low ≤ high) (line : Line) (name : String) :
    (checkVariableName low line name).Sublist (checkVariableName high line name) := by
  unfold checkVariableName
  refine List.Sublist.append (List.Sublist.append (List.Sublist.append (.refl _) ?_) ?_) ?_
  · exact gate_sublist (and_mono (Level.isStrict_mono h)) (.refl _)
  · exact gate_sublist (and_mono (Level.atLeastStandard_mono h)) (.refl _)
  · exact gate_sublist (and_mono (Level.isStrict_mono h)) (.refl _)

theorem checkProcedureName_sublist (h : low ≤ high) (line : Line) (name : String) :
    (checkProcedureName low line name).Sublist (checkProcedureName high line name) := by
  unfold checkProcedureName
  refine List.Sublist.append (.refl _) ?_
  exact gate_sublist (and_mono (and_mono (Level.isStrict_mono h))) (.refl _)

/-- The findings on the name in a field, when there is one. -/
theorem map_getD_sublist {few many : String → List Issue}
    (h : ∀ name, (few name).Sublist (many name)) (name : Option String) :
    ((name.map few).getD []).Sublist ((name.map many).getD []) := by
  cases name with
  | none => exact List.Sublist.refl _
  | some name => exact h name

theorem checkLineName_sublist (h : low ≤ high) (line : Line) :
    (checkLineName low line).Sublist (checkLineName high line) := by
  unfold checkLineName
  refine skip_sublist _ ?_
  cases line.spec with
  | definition => exact map_getD_sublist (checkVariableName_sublist h line) _
  | procedure =>
    exact gate_sublist (and_mono (Level.atLeastStandard_mono h))
      (map_getD_sublist (checkProcedureName_sublist h line) _)
  | file => exact gate_sublist (Level.isStrict_mono h) (.refl _)
  | _ => exact List.Sublist.refl _

theorem namePass_sublist (h : low ≤ high) (lines : List Line) :
    (namePass low lines).Sublist (namePass high lines) :=
  List.Sublist.flatMap_right lines fun line _ => checkLineName_sublist h line

/-! ### Legacy constructs and the user's own rules -/

theorem checkRules_sublist {few many : List CompiledRule} (h : few.Sublist many)
    (lines : List Line) : (checkRules few lines).Sublist (checkRules many lines) :=
  List.Sublist.flatMap_right lines fun _ _ => h.filterMap _

theorem practicePass_sublist (h : low ≤ high) {few many : List CompiledRule}
    (hrules : few.Sublist many) (lines : List Line) :
    (practicePass few low lines).Sublist (practicePass many high lines) := by
  unfold practicePass
  refine List.Sublist.append (List.Sublist.append (List.Sublist.append (.refl _) ?_) ?_) ?_
  · exact gate_sublist (Level.atLeastStandard_mono h) (.refl _)
  · exact gate_sublist (Level.isStrict_mono h) (.refl _)
  · exact checkRules_sublist hrules lines

/-! ### Mistakes -/

theorem mistakePass_sublist (h : low ≤ high) (lines : List Line) :
    (mistakePass low lines).Sublist (mistakePass high lines) :=
  List.Sublist.append (.refl _) (gate_sublist (Level.atLeastStandard_mono h) (.refl _))

end Checks

/-! ### The report -/

section Reports

variable {low high : Level} {few many : List CompiledRule}

/-- The findings of all passes, before any is dropped. -/
theorem allIssues_sublist (hlevel : low ≤ high) (hrules : few.Sublist many) (options : CheckOptions)
    (lines : List Line) :
    (allIssues { options with level := low, rules := few } lines).Sublist
      (allIssues { options with level := high, rules := many } lines) := by
  unfold allIssues
  refine List.Sublist.append (List.Sublist.append (List.Sublist.append (List.Sublist.append
    ?_ ?_) ?_) ?_) ?_
  · exact layoutPass_sublist hlevel _ lines
  · exact syntaxPass_sublist hlevel lines
  · exact namePass_sublist hlevel lines
  · exact practicePass_sublist hlevel hrules lines
  · exact mistakePass_sublist hlevel lines

/-- The findings of the report: dropping disabled rules and sorting keep them in their relative
order. -/
theorem checkLines_issues_sublist (hlevel : low ≤ high) (hrules : few.Sublist many)
    (options : CheckOptions) (path : Option String) (lines : List Line) :
    (checkLines { options with level := low, rules := few } .all path lines).issues.Sublist
      (checkLines { options with level := high, rules := many } .all path lines).issues := by
  unfold checkLines
  -- a sentinel is refused at every level
  cases lines.find? (·.spec == .free) with
  | some sentinel => exact List.Sublist.refl _
  | none =>
    -- both reports drop the same rules
    have hall := allIssues_sublist hlevel hrules options lines
    exact sortIssues_sublist (hall.filter _)

end Reports

/-! ### Numbers and verdict -/

/-- The numbers and the verdict of a report are those of its findings. -/
structure Report.Tallied (report : Report) : Prop where
  /-- All findings are counted. -/
  total : report.summary.total = report.issues.length
  /-- The errors are. -/
  errors : report.summary.errors = Summary.count .error report.issues
  /-- The warnings are. -/
  warnings : report.summary.warnings = Summary.count .warning report.issues
  /-- The findings that inform are. -/
  infos : report.summary.infos = Summary.count .info report.issues
  /-- The verdict is that there is no error. -/
  valid : report.valid = !report.issues.any (·.isError)

/-- Every report is tallied, also that on a member which is refused as a whole. -/
theorem tallied_checkLines (options : CheckOptions) (scope : Scope) (path : Option String)
    (lines : List Line) : (checkLines options scope path lines).Tallied := by
  unfold checkLines
  cases lines.find? (·.spec == .free) with
  | some sentinel => exact ⟨rfl, rfl, rfl, rfl, rfl⟩
  | none => exact ⟨rfl, rfl, rfl, rfl, rfl⟩

theorem Summary.count_le_of_sublist (severity : Severity) {few many : List Issue}
    (h : few.Sublist many) : count severity few ≤ count severity many :=
  h.countP_le

namespace Report

variable {fewer more : Report}

/-- A report stays invalid when it gets more findings. -/
theorem Tallied.invalid_of_sublist (hfewer : fewer.Tallied) (hmore : more.Tallied)
    (h : fewer.issues.Sublist more.issues) (hinvalid : fewer.valid = false) :
    more.valid = false := by
  rw [hfewer.valid, Bool.not_eq_false'] at hinvalid
  rw [hmore.valid, Bool.not_eq_false']
  -- an error is still there among more findings
  obtain ⟨issue, hmem, herror⟩ := List.any_eq_true.mp hinvalid
  exact List.any_eq_true.mpr ⟨issue, h.subset hmem, herror⟩

end Report

/-- **Levels and rules only ever add findings.**  With a higher level and more rules of the user,
all else being the same, every finding of the report is still there, in the same relative order; so
no number of findings goes down, and a source that was refused stays refused. -/
theorem check_sublist_of_level_le {low high : Level} (hlevel : low ≤ high)
    {few many : List CompiledRule} (hrules : few.Sublist many) (options : CheckOptions)
    (path : Option String) (source : String) :
    let fewer := check { options with level := low, rules := few } .all path source
    let more := check { options with level := high, rules := many } .all path source
    fewer.issues.Sublist more.issues ∧
      fewer.summary.total ≤ more.summary.total ∧
      fewer.summary.errors ≤ more.summary.errors ∧
      fewer.summary.warnings ≤ more.summary.warnings ∧
      fewer.summary.infos ≤ more.summary.infos ∧
      (fewer.valid = false → more.valid = false) := by
  intro fewer more
  have hsub : fewer.issues.Sublist more.issues :=
    checkLines_issues_sublist hlevel hrules options path (classify source)
  have hfewer : fewer.Tallied := tallied_checkLines _ _ _ _
  have hmore : more.Tallied := tallied_checkLines _ _ _ _
  refine ⟨hsub, ?_, ?_, ?_, ?_, hfewer.invalid_of_sublist hmore hsub⟩
  · rw [hfewer.total, hmore.total]
    exact hsub.length_le
  · rw [hfewer.errors, hmore.errors]
    exact Summary.count_le_of_sublist _ hsub
  · rw [hfewer.warnings, hmore.warnings]
    exact Summary.count_le_of_sublist _ hsub
  · rw [hfewer.infos, hmore.infos]
    exact Summary.count_le_of_sublist _ hsub

/-- Going from basic to strict while taking a rule of one's own on, over a definition after a
calculation. -/
theorem check_sublist_basic_strict :
    let named := (compileRules Pattern.engine [
      { id := "GOTO", name := "No jumps", category := .deprecated, severity := .error,
        pattern := some "goto", message := "Jump found" }]).1
    let fewer :=
      check { level := .basic, disabled := ["D_AFTER_C"] } .all none "     C\n     D  goto"
    let more := check { level := .strict, disabled := ["D_AFTER_C"], rules := named } .all none
      "     C\n     D  goto"
    Level.basic ≤ Level.strict ∧ List.Sublist [] named ∧ fewer.issues.Sublist more.issues ∧
      fewer.summary.total ≤ more.summary.total ∧
      fewer.summary.errors ≤ more.summary.errors ∧
      fewer.summary.warnings ≤ more.summary.warnings ∧
      fewer.summary.infos ≤ more.summary.infos ∧
      (fewer.valid = false → more.valid = false) :=
  ⟨by decide, List.nil_sublist _,
    check_sublist_of_level_le (by decide) (List.nil_sublist _) { disabled := ["D_AFTER_C"] } none _⟩

end RpgLint
