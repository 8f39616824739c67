import RpgLint.Proofs.Check.RuleNames
import RpgLint.Proofs.Report.Disabling

/-!
# Focused checks

A scope runs some of the checks at a level of its own.  Without rules of the user, what it reports
is what the full check reports, at any level for the order of specifications and at the standard
level otherwise, picked by rule or by category; with one exception.  The rule `F_SPEC_SPACING` is a
rule on columns, but its check belongs to the pass on mistakes, which the scope of columns does not
run.

## Main definitions

* `isColumnRule` — the rules that the scope of columns keeps.
* `Line.runsIntoFileType` — a file name that `F_SPEC_SPACING` is about.

## Main results

* `filter_flatMap_parts` — picking findings check by check.
* `filter_order`, `filter_columns`, `filter_naming` — the findings of a full check that are in a
  scope.
* `issues_columns_eq_iff` — when the scope of columns reports all findings on columns.
* `scopes_pick_of_full_check` — the scopes as filters of the full check.
-/

namespace RpgLint

/-! ### Picking findings check by check -/

/-- When a check's findings are all picked or none of them is, whole checks are picked. -/
theorem filter_flatMap_parts {parts : List (List String × List Issue)} {p : Issue → Bool}
    {q : List String → Bool} (h : ∀ part ∈ parts, ∀ issue ∈ part.2, p issue = q part.1) :
    (parts.flatMap Prod.snd).filter p = (parts.filter (q ·.1)).flatMap Prod.snd := by
  induction parts with
  | nil => rfl
  | cons part parts ih =>
    obtain ⟨hpart, hrest⟩ := List.forall_mem_cons.mp h
    rw [List.flatMap_cons, List.filter_append, ih hrest, List.filter_cons]
    cases hq : q part.1 with
    | true =>
      have hall : part.2.filter p = part.2 :=
        List.filter_eq_self.mpr fun issue hissue => (hpart issue hissue).trans hq
      rw [hall, if_pos rfl, List.flatMap_cons]
    | false =>
      have hnone : part.2.filter p = [] := by
        rw [List.filter_eq_nil_iff]
        intro issue hissue
        rw [hpart issue hissue, hq]
        exact Bool.false_ne_true
      rw [hnone, if_neg Bool.false_ne_true, List.nil_append]

section

variable (limit : LengthLimit) (level : Level) (lines : List Line)

/-- The checks on the layout are the first four. -/
theorem layoutPass_eq_checkParts :
    layoutPass limit level lines = ((checkParts limit level lines).take 4).flatMap Prod.snd := by
  simp [layoutPass, checkParts]

theorem namesOnly_layoutPass :
    NamesOnly (partNames.take 4).flatten (layoutPass limit level lines) := by
  intro issue hissue
  rw [layoutPass_eq_checkParts] at hissue
  obtain ⟨part, hpart, hmem⟩ := List.mem_flatMap.mp hissue
  have hnames : part.1 ∈ partNames.take 4 := by
    rw [← map_fst_checkParts limit level lines, ← List.map_take]
    exact List.mem_map_of_mem hpart
  have hrule : issue.rule ∈ part.1 :=
    namesOnly_checkParts limit level lines part (List.mem_of_mem_take hpart) issue hmem
  exact List.mem_flatten.mpr ⟨part.1, hnames, hrule⟩

end

/-! ### The findings of a full check that are in a scope -/

/-- The rules that the scope of columns keeps. -/
def isColumnRule (rule : String) : Bool := contains rule "_SPEC_" || rule == "LINE_LENGTH"

/-- The rules of a check on columns or line length. -/
def areColumnRules (names : List String) : Bool :=
  [columnRules, definitionRules, ["LINE_LENGTH"], ["F_SPEC_SPACING"]].contains names

/-- Such a check has rules on columns only, and no other check has one. -/
theorem isColumnRule_eq_areColumnRules :
    ∀ names ∈ partNames, ∀ name ∈ names, isColumnRule name = areColumnRules names := by
  decide

/-- Such checks are three of the four on the layout, and the one on file names that run into column
17. -/
theorem map_areColumnRules_partNames : partNames.map areColumnRules =
    [false, true, true, true, false, false, false, false, false, false, false, false, false, true,
      false, false, false, false, false] := by
  decide

section

variable {limit : LengthLimit} {level : Level} {lines : List Line}

theorem filter_checkParts_columns :
    (checkParts limit level lines).filter (areColumnRules ·.1) =
      [(columnRules, checkColumns level lines), (definitionRules, checkDefinitions level lines),
        (["LINE_LENGTH"], checkLength limit lines),
        (["F_SPEC_SPACING"], lines.filterMap fileNameSpacing?)] := by
  have hpicked := map_areColumnRules_partNames
  simp only [partNames, checkParts, List.map_cons, List.map_nil, List.cons.injEq] at hpicked
  simp [checkParts, hpicked]

theorem filter_take_checkParts_columns :
    ((checkParts limit level lines).take 4).filter (areColumnRules ·.1) =
      [(columnRules, checkColumns level lines), (definitionRules, checkDefinitions level lines),
        (["LINE_LENGTH"], checkLength limit lines)] := by
  have hpicked := map_areColumnRules_partNames
  simp only [partNames, checkParts, List.map_cons, List.map_nil, List.cons.injEq] at hpicked
  simp [checkParts, hpicked]

theorem filter_checkParts_order :
    (checkParts limit level lines).filter (·.1 == ["SPEC_ORDER"]) =
      [(["SPEC_ORDER"], checkOrder lines)] := by
  simp [checkParts, columnRules, definitionRules, fieldRules, nameRules]

theorem filter_take_checkParts_order :
    ((checkParts limit level lines).take 4).filter (·.1 == ["SPEC_ORDER"]) =
      [(["SPEC_ORDER"], checkOrder lines)] := by
  simp [checkParts, columnRules, definitionRules, fieldRules]

theorem filter_checkParts_naming :
    (checkParts limit level lines).filter (·.1 == nameRules) =
      [(nameRules, checkNames level lines)] := by
  simp [checkParts, columnRules, definitionRules, fieldRules, nameRules]

end

section

variable (limit : LengthLimit) (level : Level) (lines : List Line)

/-- Picking by rule keeps or drops whole checks, of all checks and of the four on the layout. -/
theorem filter_rule_checkParts {r : String → Bool} {q : List String → Bool}
    (hr : ∀ names ∈ partNames, ∀ name ∈ names, r name = q names) :
    ((checkParts limit level lines).flatMap Prod.snd).filter (r ·.rule) =
        ((checkParts limit level lines).filter (q ·.1)).flatMap Prod.snd ∧
      (layoutPass limit level lines).filter (r ·.rule) =
        (((checkParts limit level lines).take 4).filter (q ·.1)).flatMap Prod.snd := by
  have hparts := rule_eq_of_mem_checkParts limit level lines hr
  -- the rule of a finding is picked exactly when its check is
  refine ⟨filter_flatMap_parts hparts, ?_⟩
  rw [layoutPass_eq_checkParts]
  exact filter_flatMap_parts fun part hpart => hparts part (List.mem_of_mem_take hpart)

end

section

variable {options : CheckOptions} (hrules : options.rules = []) (lines : List Line)

include hrules

/-- The findings on the order are those of one check on the layout, whatever the level of either. -/
theorem filter_order (level : Level) :
    (allIssues options lines).filter (·.rule == "SPEC_ORDER") =
      (layoutPass options.limit level lines).filter (·.rule == "SPEC_ORDER") := by
  have hr : ∀ names ∈ partNames, ∀ name ∈ names,
      (name == "SPEC_ORDER") = (names == ["SPEC_ORDER"]) := by
    decide
  have hall := (filter_rule_checkParts options.limit options.level lines hr).1
  have hlayout := (filter_rule_checkParts options.limit level lines hr).2
  rw [allIssues_eq_checkParts lines hrules, hall, hlayout, filter_checkParts_order,
    filter_take_checkParts_order]

/-- The findings on columns are those of the checks on the layout, and those on file names that run
into the next field. -/
theorem filter_columns :
    (allIssues options lines).filter (·.isColumnIssue) =
      (layoutPass options.limit options.level lines).filter (·.isColumnIssue) ++
        lines.filterMap fileNameSpacing? := by
  obtain ⟨hall, hlayout⟩ :=
    filter_rule_checkParts options.limit options.level lines isColumnRule_eq_areColumnRules
  -- of all checks four are picked, of those on the layout three
  rw [filter_checkParts_columns] at hall
  rw [filter_take_checkParts_columns] at hlayout
  rw [allIssues_eq_checkParts lines hrules]
  show List.filter (fun issue : Issue => isColumnRule issue.rule) _ =
    List.filter (fun issue : Issue => isColumnRule issue.rule) _ ++ _
  rw [hall, hlayout]
  simp only [List.flatMap_cons, List.flatMap_nil, List.append_assoc, List.append_nil]

/-- The findings on names are those of the check of names. -/
theorem filter_naming :
    (allIssues options lines).filter (·.category == .naming) = namePass options.level lines := by
  have hpicked := filter_flatMap_parts (p := (·.category == .naming)) (q := (· == nameRules))
    (naming_eq_of_mem_checkParts options.limit options.level lines)
  rw [allIssues_eq_checkParts lines hrules, hpicked, filter_checkParts_naming,
    List.flatMap_singleton]
  rfl

end

/-! ### File names that run into column 17 -/

/-- The file name on the line has ten characters and runs into column 17. -/
def Line.runsIntoFileType (line : Line) : Bool :=
  line.spec == .file && !line.isComment && decide (Field.fileType.start < line.length) &&
    charLength (trim (Field.fileName.text line.raw)) == 10 &&
    charAt? line.raw Field.fileType.start != some ' '

/-- Such file names are what `F_SPEC_SPACING` is about. -/
theorem isSome_fileNameSpacing? (line : Line) :
    (fileNameSpacing? line).isSome = line.runsIntoFileType := by
  -- the check says nothing under two conditions, and the name is one when neither holds
  let skip := line.spec != .file || line.isComment || decide (line.length ≤ Field.fileType.start)
  let fits := charLength (trim (Field.fileName.text line.raw)) != 10 ||
    charAt? line.raw Field.fileType.start == some ' '
  have hruns : line.runsIntoFileType = (!skip && !fits) := by
    simp only [Line.runsIntoFileType, skip, fits, bne, Bool.not_or, Bool.not_not, ← decide_not,
      Nat.not_le, Bool.and_assoc]
  rw [hruns]
  unfold fileNameSpacing?
  by_cases hskip : skip
  · rw [if_pos hskip, hskip]
    rfl
  · rw [if_neg hskip]
    by_cases hfits : fits
    · rw [if_pos hfits, hfits, Bool.not_true, Bool.and_false, Option.isSome_none]
    · rw [if_neg hfits, Bool.eq_false_iff.mpr hskip, Bool.eq_false_iff.mpr hfits]
      rfl

/-- No finding is listed exactly when no file name runs into column 17. -/
theorem filterMap_fileNameSpacing?_eq_nil_iff (lines : List Line) :
    lines.filterMap fileNameSpacing? = [] ↔ ∀ line ∈ lines, line.runsIntoFileType = false := by
  rw [List.filterMap_eq_nil_iff]
  refine forall₂_congr fun line _ => ?_
  rw [← isSome_fileNameSpacing?, Option.isSome_eq_false_iff, Option.isNone_iff_eq_none]

/-! ### The scope of columns -/

theorem filter_sortIssues_dropDisabled (p : Issue → Bool) (disabled : List String)
    (issues : List Issue) :
    (sortIssues (dropDisabled disabled issues)).filter p =
      sortIssues (dropDisabled disabled (issues.filter p)) := by
  rw [filter_sortIssues, dropDisabled, dropDisabled, List.filter_filter, List.filter_filter]
  simp only [Bool.and_comm]

/-- A report with more findings is the same one when all of these are disabled. -/
theorem sortIssues_dropDisabled_append_eq_iff (disabled : List String) (issues more : List Issue) :
    sortIssues (dropDisabled disabled issues) =
        sortIssues (dropDisabled disabled (issues ++ more)) ↔
      dropDisabled disabled more = [] := by
  have happend : dropDisabled disabled (issues ++ more) =
      dropDisabled disabled issues ++ dropDisabled disabled more := List.filter_append _ _
  rw [happend]
  constructor
  · intro heq
    -- a longer report is another one
    have hlength := congrArg List.length heq
    rw [sortIssues, sortIssues, List.length_mergeSort, List.length_mergeSort,
      List.length_append] at hlength
    exact List.length_eq_zero_iff.mp (Nat.left_eq_add.mp hlength)
  · intro hnil
    rw [hnil, List.append_nil]

/-- The findings on file names all have the one rule, so that they go together. -/
theorem dropDisabled_fileNameSpacing_eq_nil_iff (disabled : List String) (lines : List Line) :
    dropDisabled disabled (lines.filterMap fileNameSpacing?) = [] ↔
      "F_SPEC_SPACING" ∈ disabled ∨ ∀ line ∈ lines, line.runsIntoFileType = false := by
  have hnames := (written_fileNameSpacing lines).namesOnly
  rw [← filterMap_fileNameSpacing?_eq_nil_iff]
  -- all are dropped or none is, since all are of the one rule
  by_cases hdisabled : "F_SPEC_SPACING" ∈ disabled
  · have hnone : dropDisabled disabled (lines.filterMap fileNameSpacing?) = [] :=
      hnames.filter_rule_eq_nil (r := fun name => !disabled.contains name)
        (by simpa using hdisabled)
    exact iff_of_true hnone (Or.inl hdisabled)
  · have hall : dropDisabled disabled (lines.filterMap fileNameSpacing?) =
        lines.filterMap fileNameSpacing? :=
      hnames.filter_rule_eq_self (r := fun name => !disabled.contains name)
        (by simpa using hdisabled)
    rw [hall, or_iff_right hdisabled]

/-- So the findings on columns without those on file names are those of the checks on the layout. -/
theorem filter_columns_of_layout {options : CheckOptions} (hrules : options.rules = [])
    (lines : List Line) :
    (allIssues options lines).filter
        (fun issue => issue.isColumnIssue && issue.rule != "F_SPEC_SPACING") =
      (layoutPass options.limit options.level lines).filter (·.isColumnIssue) := by
  have hspacing : (lines.filterMap fileNameSpacing?).filter (·.rule != "F_SPEC_SPACING") = [] :=
    (written_fileNameSpacing lines).namesOnly.filter_rule_eq_nil (r := (· != "F_SPEC_SPACING"))
      (by decide)
  have hlayout :
      (layoutPass options.limit options.level lines).filter (·.rule != "F_SPEC_SPACING") =
        layoutPass options.limit options.level lines :=
    (namesOnly_layoutPass _ _ lines).filter_rule_eq_self (r := (· != "F_SPEC_SPACING"))
      (by decide)
  calc (allIssues options lines).filter
        (fun issue => issue.isColumnIssue && issue.rule != "F_SPEC_SPACING")
    _ = ((allIssues options lines).filter (·.isColumnIssue)).filter
          (·.rule != "F_SPEC_SPACING") := by
        rw [List.filter_filter]
        simp only [Bool.and_comm]
    _ = ((layoutPass options.limit options.level lines).filter (·.rule != "F_SPEC_SPACING")).filter
          (·.isColumnIssue) := by
        rw [filter_columns hrules, List.filter_append, hspacing, List.append_nil,
          List.filter_filter, List.filter_filter]
        simp only [Bool.and_comm]
    _ = (layoutPass options.limit options.level lines).filter (·.isColumnIssue) := by rw [hlayout]

section

variable {options : CheckOptions} (path : Option String) {source : String}
  (hfixed : hasFreeSentinel (classify source) = false)

include hfixed

/-- What a filter keeps of a full report, when it is known which findings of the passes it keeps. -/
theorem filter_issues_check {level : Level} {p : Issue → Bool} {kept : List Issue}
    (hkept : (allIssues { options with level := level } (classify source)).filter p = kept) :
    (check { options with level := level } .all path source).issues.filter p =
      sortIssues (dropDisabled options.disabled kept) := by
  rw [issues_check_of_fixed _ .all path hfixed, filter_sortIssues_dropDisabled, ← hkept]
  rfl

/-- The scope of columns reports what a full check reports on columns, unless a file name runs into
column 17. -/
theorem issues_columns_eq_iff (hrules : options.rules = []) :
    (check options .columns path source).issues =
        (check { options with level := .standard } .all path source).issues.filter
          (·.isColumnIssue) ↔
      "F_SPEC_SPACING" ∈ options.disabled ∨
        ∀ line ∈ classify source, line.runsIntoFileType = false := by
  have hstandard : CheckOptions.rules { options with level := .standard } = [] := hrules
  -- the full check lists the findings on file names after the others
  rw [issues_check_of_fixed options .columns path hfixed,
    filter_issues_check path hfixed (filter_columns hstandard (classify source)),
    ← dropDisabled_fileNameSpacing_eq_nil_iff]
  exact sortIssues_dropDisabled_append_eq_iff _ _ _

end

/-- **The scopes are filters of the full check.**  Without rules of the user, on a member without a
sentinel, the scope of order reports the findings on the order of a full check at any level, and the
scope of names those of category naming at the standard level, in the same order.  Of the findings
on columns at the standard level the scope of columns lacks those on file names that run into column
17, and no others. -/
theorem scopes_pick_of_full_check (options : CheckOptions) (hrules : options.rules = [])
    (path : Option String) {source : String} (hfixed : hasFreeSentinel (classify source) = false) :
    let full := fun level => (check { options with level := level } .all path source).issues
    let focused := fun scope => (check options scope path source).issues
    (∀ level, focused .order = (full level).filter (·.rule == "SPEC_ORDER")) ∧
      focused .naming = (full .standard).filter (·.category == .naming) ∧
      focused .columns = (full .standard).filter
        (fun issue => issue.isColumnIssue && issue.rule != "F_SPEC_SPACING") ∧
      (focused .columns = (full .standard).filter (·.isColumnIssue) ↔
        "F_SPEC_SPACING" ∈ options.disabled ∨
          ∀ line ∈ classify source, line.runsIntoFileType = false) := by
  intro full focused
  have hlevel : ∀ level, CheckOptions.rules { options with level := level } = [] := fun _ => hrules
  have hfocused : ∀ scope, focused scope =
      sortIssues (dropDisabled options.disabled (scopeIssues options (classify source) scope)) :=
    fun scope => issues_check_of_fixed options scope path hfixed
  -- in each scope the findings of a full check that are kept are those of a pass
  refine ⟨fun level => ?_, ?_, ?_, issues_columns_eq_iff path hfixed hrules⟩
  · have hfull :=
      filter_issues_check path hfixed (filter_order (hlevel level) (classify source) .basic)
    rw [hfocused .order, hfull]
    rfl
  · have hfull :=
      filter_issues_check path hfixed (filter_naming (hlevel .standard) (classify source))
    rw [hfocused .naming, hfull]
    rfl
  · have hfull := filter_issues_check path hfixed
      (filter_columns_of_layout (hlevel .standard) (classify source))
    rw [hfocused .columns, hfull]
    rfl

/-- A file name that runs into column 17, with its rule disabled, and a name that leaves the column
blank. -/
theorem scopes_pick_of_full_check_file :
    let touching := "     FCUSTMASTERI"
    let apart := "     FCUSTMASTER I"
    (check { disabled := ["F_SPEC_SPACING"] } .columns none touching).issues =
        (check { disabled := ["F_SPEC_SPACING"], level := .standard } .all none
          touching).issues.filter (·.isColumnIssue) ∧
      (check {} .columns none apart).issues =
        (check { level := .standard } .all none apart).issues.filter (·.isColumnIssue) := by
  intro touching apart
  have htouching : hasFreeSentinel (classify touching) = false := by decide
  have hapart : hasFreeSentinel (classify apart) = false := by decide
  have hblank : ∀ line ∈ classify apart, line.runsIntoFileType = false := by decide
  obtain ⟨-, -, -, hdisabled⟩ :=
    scopes_pick_of_full_check { disabled := ["F_SPEC_SPACING"] } rfl none htouching
  obtain ⟨-, -, -, hseparate⟩ := scopes_pick_of_full_check {} rfl none hapart
  exact ⟨hdisabled.mpr (Or.inl List.mem_cons_self), hseparate.mpr (Or.inr hblank)⟩

/-- The scope of columns misses a finding on columns. -/
theorem columns_scope_misses_file_name :
    let touching := "     FCUSTMASTERI"
    hasFreeSentinel (classify touching) = false ∧
      (check {} .columns none touching).issues ≠
        (check { level := .standard } .all none touching).issues.filter (·.isColumnIssue) := by
  intro touching
  have hfixed : hasFreeSentinel (classify touching) = false := by decide
  refine ⟨hfixed, fun hsame => ?_⟩
  have hruns : ¬∀ line ∈ classify touching, line.runsIntoFileType = false := by decide
  rcases (issues_columns_eq_iff none hfixed rfl).mp hsame with hdisabled | hnone
  · exact List.not_mem_nil hdisabled
  · exact hruns hnone

end RpgLint
