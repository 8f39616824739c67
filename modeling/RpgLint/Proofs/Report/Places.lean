import RpgLint.Pattern.Reader
import RpgLint.Proofs.Report.Comments

/-!
# The places of findings

Every finding of a report is on a line of the source, its columns are counted from one and in order,
and the text that it shows is that of its line.  The check of line length alone shows an excerpt.  A
rule of the user shows the whole line, even a rule that goes by the name of that check.

## Main results

* `exists_part_of_mem_scopeIssues` — the check that a finding comes from.
* `issues_at_lines_of_source` — the places of findings.
-/

namespace RpgLint

/-! ### Where findings come from -/

section

variable (options : CheckOptions) (scope : Scope) (lines : List Line)

/-- The checks of a scope are among those of a full check, at the level of the scope. -/
theorem exists_scopeIssues_subset_allIssues : ∃ level,
    scopeIssues { options with rules := [] } lines scope ⊆
      allIssues { options with level := level, rules := [] } lines := by
  cases scope with
  | all => exact ⟨options.level, List.Subset.refl _⟩
  | order =>
    -- the scope of order reads the layout at the lowest level, that of columns at the standard one
    refine ⟨.basic, fun issue hissue => ?_⟩
    simp [allIssues, (List.mem_filter.mp hissue).1]
  | columns =>
    refine ⟨.standard, fun issue hissue => ?_⟩
    simp [allIssues, (List.mem_filter.mp hissue).1]
  | naming =>
    refine ⟨.standard, fun issue hissue => ?_⟩
    simp [allIssues, show issue ∈ namePass .standard lines from hissue]
  | bestPractice =>
    refine ⟨.standard, fun issue hissue => ?_⟩
    simp [allIssues, show issue ∈ practicePass [] .standard lines from hissue]

/-- Without rules of the user, a finding in a scope is one of a check. -/
theorem exists_part_of_mem_scopeIssues {issue : Issue}
    (h : issue ∈ scopeIssues { options with rules := [] } lines scope) :
    ∃ level, ∃ part ∈ checkParts options.limit level lines, issue ∈ part.2 := by
  obtain ⟨level, hsubset⟩ := exists_scopeIssues_subset_allIssues options scope lines
  have hissue := hsubset h
  rw [allIssues_eq_checkParts lines rfl] at hissue
  exact ⟨level, List.mem_flatMap.mp hissue⟩

end

/-! ### The text that a finding shows -/

/-- What a finding shows of its line: an excerpt, when it is one of the check of line length and not
of a rule of the user with the same name. -/
def Issue.shownText (rules : List CompiledRule) (lines : List Line) (issue : Issue) (line : Line) :
    String :=
  if issue.rule = "LINE_LENGTH" ∧ issue ∉ checkRules rules lines then line.excerpt else line.raw

/-- The check of line length names a column, which a rule of the user does not. -/
theorem not_mem_checkRules_of_mem_checkLength {limit : LengthLimit} {lines : List Line}
    {issue : Issue} (h : issue ∈ checkLength limit lines) (rules : List CompiledRule) :
    issue ∉ checkRules rules lines := by
  intro hrules
  -- a finding of a rule has no column
  obtain ⟨line, -, -, hnone⟩ := pointsAt_of_mem_checkRules hrules
  -- and one on line length has the column behind the limit
  obtain ⟨long, -, hlength⟩ := List.mem_filterMap.mp h
  unfold lengthIssue? at hlength
  dsimp only at hlength
  split at hlength
  · cases hlength
  · rw [← Option.some.inj hlength] at hnone
    cases hnone

theorem eq_checkLength_of_mem_checkParts {limit : LengthLimit} {level : Level} {lines : List Line} :
    ∀ part ∈ checkParts limit level lines, part.1 = ["LINE_LENGTH"] →
      part.2 = checkLength limit lines := by
  simp [checkParts, columnRules, definitionRules, nameRules]

/-- A finding of a check shows what the check shows of its line. -/
theorem shownUnder_of_mem_checkParts {limit : LengthLimit} {level : Level} {lines : List Line}
    {part : List String × List Issue} (hpart : part ∈ checkParts limit level lines) {issue : Issue}
    (hissue : issue ∈ part.2) (rules : List CompiledRule) (line : Line) :
    shownUnder part.1 line = issue.shownText rules lines line := by
  have hlength : ∀ names ∈ partNames, ∀ name ∈ names,
      (name == "LINE_LENGTH") = (names == ["LINE_LENGTH"]) := by
    decide
  have hrule := rule_eq_of_mem_checkParts limit level lines hlength part hpart issue hissue
  unfold shownUnder Issue.shownText
  -- only the check of line length shows an excerpt, and only it has the rule
  by_cases hnames : part.1 = ["LINE_LENGTH"]
  · have hcheck := eq_checkLength_of_mem_checkParts part hpart hnames
    have hnot := not_mem_checkRules_of_mem_checkLength (hcheck ▸ hissue) rules
    rw [hnames, beq_self_eq_true, beq_iff_eq] at hrule
    rw [if_pos hnames, if_pos ⟨hrule, hnot⟩]
  · have hother : ¬issue.rule = "LINE_LENGTH" := by
      rw [← beq_iff_eq, hrule, beq_iff_eq]
      exact hnames
    rw [if_neg hnames, if_neg fun h => hother h.1]

/-! ### The places -/

/-- A finding in a scope is on one of the lines, and shows its text or an excerpt of it. -/
theorem exists_pointsAt_of_mem_scopeIssues {options : CheckOptions} {scope : Scope}
    {source : String} {issue : Issue} (h : issue ∈ scopeIssues options (classify source) scope) :
    ∃ line ∈ classify source, issue.PointsAt line
      (issue.shownText (options.rulesIn scope) (classify source) line) := by
  rcases (mem_scopeIssues_iff options scope (classify source)).mp h with hown | hrules
  · obtain ⟨level, part, hpart, hissue⟩ := exists_part_of_mem_scopeIssues options scope _ hown
    -- two checks report on the first line of the member, which every source has
    obtain ⟨first, hfirst, hnumber⟩ := exists_first_classify source
    obtain ⟨line, hline, hwritten⟩ :=
      written_checkParts hnumber options.limit level _ part hpart issue hissue
    have hmem : line ∈ classify source := List.cons_subset.mpr ⟨hfirst, List.Subset.refl _⟩ hline
    refine ⟨line, hmem, ?_⟩
    rw [← shownUnder_of_mem_checkParts hpart hissue (options.rulesIn scope) line]
    exact hwritten.toPointsAt
  · obtain ⟨line, hline, hpoints, -⟩ := pointsAt_of_mem_checkRules hrules
    refine ⟨line, hline, ?_⟩
    rw [Issue.shownText, if_neg fun hexcerpt => hexcerpt.2 hrules]
    exact hpoints

theorem pointsAt_unsupportedFreeForm (sentinel : Line) :
    (unsupportedFreeForm sentinel).PointsAt sentinel sentinel.raw := by
  constructor <;> simp [unsupportedFreeForm]

/-- **The places of findings.**  Whatever is checked, every finding of the report is on a line of
the source; its columns are counted from one, and a last column comes with a first one that is not
behind it; and the text that it shows is the line with its number, or the first 50 characters of
that line with three periods in a finding of the check of line length. -/
theorem issues_at_lines_of_source (options : CheckOptions) (scope : Scope) (path : Option String)
    (source : String) :
    ∀ issue ∈ (check options scope path source).issues,
      (1 ≤ issue.line ∧ issue.line ≤ (classify source).length) ∧
        (∀ column ∈ issue.column, 1 ≤ column) ∧
        (∀ last ∈ issue.endColumn, ∃ column ∈ issue.column, column ≤ last) ∧
        ∀ snippet ∈ issue.snippet, ∃ line, (classify source)[issue.line - 1]? = some line ∧
          line.number = issue.line ∧
          snippet =
            if issue.rule = "LINE_LENGTH" ∧
                issue ∉ checkRules (options.rulesIn scope) (classify source) then
              slice line.raw 0 50 ++ "..."
            else line.raw := by
  intro issue hissue
  have hplace : ∃ line ∈ classify source, issue.PointsAt line
      (issue.shownText (options.rulesIn scope) (classify source) line) := by
    cases hsentinel : hasFreeSentinel (classify source) with
    | true =>
      obtain ⟨sentinel, hmem, -, hissues⟩ := issues_check_of_sentinel options scope path hsentinel
      rw [hissues, List.mem_singleton] at hissue
      refine ⟨sentinel, hmem, ?_⟩
      rw [Issue.shownText, if_neg (by simp [hissue, unsupportedFreeForm]), hissue]
      exact pointsAt_unsupportedFreeForm sentinel
    | false =>
      -- disabled rules only take findings away
      exact exists_pointsAt_of_mem_scopeIssues
        ((mem_issues_check_of_fixed options scope path hsentinel).mp hissue).1
  obtain ⟨line, hline, hpoints⟩ := hplace
  obtain ⟨hpos, hle, hat⟩ := getElem?_of_mem_classify hline
  -- the number of a line is its place in the source
  rw [← hpoints.line_eq] at hpos hle hat
  exact ⟨⟨hpos, hle⟩, hpoints.column_pos, hpoints.columns_le, fun snippet hsnippet =>
    ⟨line, hat, hpoints.line_eq.symm, hpoints.snippet_eq snippet hsnippet⟩⟩

/-- A file name in a line that is too long for the limit. -/
theorem issues_at_lines_of_source_file_name :
    let source := "     FCUSTMASTERI"
    let options : CheckOptions := { limit := { max := 10 } }
    ∃ issue ∈ (check options .all none source).issues,
      issue.rule = "LINE_LENGTH" ∧ (1 ≤ issue.line ∧ issue.line ≤ (classify source).length) ∧
        issue.column = some 11 ∧ (∀ column ∈ issue.column, 1 ≤ column) ∧
        issue.snippet.isSome ∧ ∀ snippet ∈ issue.snippet, ∃ line,
          (classify source)[issue.line - 1]? = some line ∧ line.number = issue.line ∧
            snippet = if issue.rule = "LINE_LENGTH" ∧ issue ∉ checkRules [] (classify source) then
              slice line.raw 0 50 ++ "..." else line.raw := by
  intro source options
  have hfixed : hasFreeSentinel (classify source) = false := by decide
  have hlisted : ∃ issue ∈ scopeIssues options (classify source) .all,
      issue.rule = "LINE_LENGTH" ∧ issue.column = some 11 ∧ issue.snippet.isSome := by
    decide
  obtain ⟨issue, hissue, hrule, hcolumn, hsnippet⟩ := hlisted
  have hreported :=
    (mem_issues_check_of_fixed options .all none hfixed).mpr ⟨hissue, List.not_mem_nil⟩
  obtain ⟨hline, hcolumns, -, htext⟩ :=
    issues_at_lines_of_source options .all none source issue hreported
  exact ⟨issue, hreported, hrule, hline, hcolumn, hcolumns, hsnippet, htext⟩

/-- A rule of the user with the name of the check of line length shows the whole line. -/
theorem rule_named_lineLength_shows_line :
    let source := "     C                   EVAL      X = 1"
    let rules := (compileRules Pattern.engine [
      { id := "LINE_LENGTH", name := "No assignments", category := .bestPractice, severity := .info,
        pattern := some "=", message := "Assignment found" }]).1
    ∃ issue ∈ (check { rules := rules } .all none source).issues, issue.rule = "LINE_LENGTH" ∧
      ∃ line, (classify source)[issue.line - 1]? = some line ∧ line.number = issue.line ∧
        ∃ snippet ∈ issue.snippet, snippet = line.raw ∧ snippet ≠ slice line.raw 0 50 ++ "..." := by
  intro source rules
  have hfixed : hasFreeSentinel (classify source) = false := by decide
  have hlisted : ∃ issue ∈ scopeIssues { rules := rules } (classify source) .all,
      issue.rule = "LINE_LENGTH" ∧
      ∃ line ∈ (classify source)[issue.line - 1]?, line.number = issue.line ∧
        ∃ snippet ∈ issue.snippet, snippet = line.raw ∧ snippet ≠ slice line.raw 0 50 ++ "..." := by
    decide +kernel
  obtain ⟨issue, hissue, hrule, line, hline, hshown⟩ := hlisted
  exact ⟨issue, (mem_issues_check_of_fixed { rules := rules } .all none hfixed).mpr
    ⟨hissue, List.not_mem_nil⟩, hrule, line, hline, hshown⟩

end RpgLint
