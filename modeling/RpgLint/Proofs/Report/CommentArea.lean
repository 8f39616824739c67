import RpgLint.Proofs.Check.CommentArea
import RpgLint.Proofs.Line.Classification
import RpgLint.Proofs.Report.Sorting

/-!
# The comment area and the report

Two sources that differ in comment areas only have reports that agree, but for the rule on line
length, in all rules other than the six whose checks read a line to its end.  The reports agree as a
whole exactly when the two sources read the same to those of the six that run: a report lists the
findings of one rule in the order of the lines, so that what it says under the rule tells what the
check read of each line.

## Main definitions

* `Headline.notAfter` — the order of a report, as an order of what it says.
* `ReportsOn` — a check that reports each item on its own line and with one severity.
* `CodeColumnsAgree`, `DifferInCommentAreas` — the pairs of lines and of sources.

## Main results

* `map_reading_eq_of_sorted_eq` — what a check reads, line by line, from its sorted findings.
* `commentAreasAlike_of_sorted` — the same for all six checks.
* `DifferInCommentAreas.headlines_check_eq_iff` — when two reports agree.
* `report_eq_iff_commentAreasAlike` — the same, with the rules that always agree.
-/

namespace RpgLint

/-! ### Sorted headlines -/

/-- The order of a report: by line, and on a line by severity. -/
def Headline.notAfter (a b : Headline) : Bool :=
  a.line < b.line || (a.line == b.line && a.severity.rank ≤ b.severity.rank)

/-- What sorted findings say is what the findings say, sorted. -/
theorem headlines_sortIssues (issues : List Issue) :
    headlines (sortIssues issues) = (headlines issues).mergeSort Headline.notAfter :=
  List.map_mergeSort fun _ _ _ _ => rfl

/-- What is said of each item is about the line of the item and of the one severity. -/
def ReportsOn {α : Type} (number : α → Nat) (severity : Severity) (f : α → List Headline) : Prop :=
  ∀ a, ∀ headline ∈ f a, headline.line = number a ∧ headline.severity = severity

section

variable {α : Type} {number : α → Nat} {severity : Severity} {f : α → List Headline}
  (hf : ReportsOn number severity f) {as bs : List α}

include hf

/-- Findings of one severity, in the order of the lines, are sorted. -/
theorem pairwise_notAfter_flatMap (hincreasing : (as.map number).Pairwise (· < ·)) :
    (as.flatMap f).Pairwise fun x y => x.notAfter y := by
  rw [List.pairwise_flatMap]
  constructor
  · -- the findings on one item are on one line and of one severity
    intro a _
    rw [List.pairwise_iff_getElem]
    intro i j hi hj _
    obtain ⟨hline, hseverity⟩ := hf a _ (List.getElem_mem hi)
    obtain ⟨hline', hseverity'⟩ := hf a _ (List.getElem_mem hj)
    simp [Headline.notAfter, hline, hline', hseverity, hseverity']
  · -- those on two items are on two lines, the first of them in front
    refine (List.pairwise_map.mp hincreasing).imp ?_
    intro a b hlt x hx y hy
    simp [Headline.notAfter, (hf a x hx).1, (hf b y hy).1, hlt]

/-- The findings on each line can be told from all of them. -/
theorem map_eq_of_flatMap_eq (hincreasing : (as.map number).Pairwise (· < ·))
    (hnumbers : as.map number = bs.map number) (h : as.flatMap f = bs.flatMap f) :
    as.map f = bs.map f := by
  induction as generalizing bs with
  | nil =>
    cases bs with
    | nil => rfl
    | cons b bs => cases hnumbers
  | cons a as ih =>
    cases bs with
    | nil => cases hnumbers
    | cons b bs =>
      rw [List.map_cons, List.map_cons, List.cons.injEq] at hnumbers
      rw [List.map_cons, List.pairwise_cons] at hincreasing
      have hbs : ∀ n ∈ bs.map number, number a < n := hnumbers.2 ▸ hincreasing.1
      -- the findings on the first line are picked out of both lists by the number of the line
      have hown : ∀ c, number c = number a → (f c).filter (·.line == number a) = f c := by
        intro c hc
        rw [List.filter_eq_self]
        intro headline hheadline
        rw [(hf c headline hheadline).1, hc, beq_self_eq_true]
      have hothers : ∀ cs : List α, (∀ n ∈ cs.map number, number a < n) →
          (cs.flatMap f).filter (·.line == number a) = [] := by
        intro cs hcs
        rw [List.filter_eq_nil_iff]
        intro headline hheadline heq
        obtain ⟨c, hc, hmem⟩ := List.mem_flatMap.mp hheadline
        have hlt := hcs _ (List.mem_map_of_mem hc)
        rw [beq_iff_eq, (hf c headline hmem).1] at heq
        omega
      rw [List.flatMap_cons, List.flatMap_cons] at h
      have hfirst : f a = f b := by
        have hfilter := congrArg (List.filter (·.line == number a)) h
        rwa [List.filter_append, List.filter_append, hown a rfl, hown b hnumbers.1.symm,
          hothers as hincreasing.1, hothers bs hbs, List.append_nil, List.append_nil] at hfilter
      rw [hfirst] at h
      rw [List.map_cons, List.map_cons, hfirst,
        ih hincreasing.2 hnumbers.2 (List.append_cancel_left h)]

/-- **The sorted findings of one rule tell what its check reads**, when the check says different
things of items that read differently and agree otherwise. -/
theorem map_reading_eq_of_sorted_eq {γ δ : Type} {code : α → γ} {reading : α → δ}
    (hincreasing : (as.map number).Pairwise (· < ·)) (hcode : as.map code = bs.map code)
    (hnumber : ∀ a b, code a = code b → number a = number b)
    (hread : ∀ a b, code a = code b → f a = f b → reading a = reading b)
    (h : (as.flatMap f).mergeSort Headline.notAfter = (bs.flatMap f).mergeSort Headline.notAfter) :
    as.map reading = bs.map reading := by
  have hnumbers : as.map number = bs.map number :=
    map_eq_of_map_eq (fun a b hab _ => hnumber a b hab) hcode hcode
  -- both lists are sorted as they stand, so that sorting them loses nothing
  rw [List.mergeSort_of_pairwise (pairwise_notAfter_flatMap hf hincreasing),
    List.mergeSort_of_pairwise (pairwise_notAfter_flatMap hf (hnumbers ▸ hincreasing))] at h
  exact map_eq_of_map_eq hread hcode (map_eq_of_flatMap_eq hf hincreasing hnumbers h)

end

/-! ### The six checks -/

theorem reportsOn_keywordHeadlines : ReportsOn Line.number .warning keywordHeadlines := by
  intro line headline hheadline
  unfold keywordHeadlines at hheadline
  split at hheadline
  · rw [List.mem_singleton.mp hheadline]
    exact ⟨rfl, rfl⟩
  · cases hheadline

theorem reportsOn_nameHeadlines : ReportsOn Line.number .error nameHeadlines := by
  intro line headline hheadline
  unfold nameHeadlines at hheadline
  split at hheadline
  · rw [List.mem_singleton.mp hheadline]
    exact ⟨rfl, rfl⟩
  · cases hheadline

theorem reportsOn_multipleStatements :
    ReportsOn (fun p : Bool × Line => p.2.number) .error
      fun p => headlines (multipleStatements false p.1 p.2) := by
  rintro ⟨inFreeBlock, line⟩ headline hheadline
  obtain ⟨issue, hissue, rfl⟩ := List.mem_map.mp hheadline
  have hplace : ∃ place, issue = multipleStatementsIssue line place := by
    rw [multipleStatements_eq] at hissue
    split at hissue
    · -- a finding in a calculation, or one in a free block
      rcases List.mem_append.mp hissue with hmem | hmem <;> split at hmem
      · exact ⟨_, List.mem_singleton.mp hmem⟩
      · cases hmem
      · exact ⟨_, List.mem_singleton.mp hmem⟩
      · cases hmem
    · cases hissue
  obtain ⟨place, rfl⟩ := hplace
  exact ⟨rfl, rfl⟩

theorem reportsOn_lineIndicators :
    ReportsOn Line.number .warning fun line => headlines (lineIndicators line) := by
  intro line headline hheadline
  obtain ⟨issue, hissue, rfl⟩ := List.mem_map.mp hheadline
  unfold lineIndicators at hissue
  split at hissue
  · cases hissue
  · obtain ⟨use, -, rfl⟩ := List.mem_map.mp hissue
    exact ⟨rfl, rfl⟩

theorem reportsOn_parenthesesIssue? :
    ReportsOn (fun group : StatementGroup => group.head.number) .warning
      fun group => ((parenthesesIssue? group).map Issue.headline).toList := by
  intro group headline hheadline
  dsimp only at hheadline
  rw [parenthesesIssue?_eq, Option.mem_toList, Option.map_eq_some_iff] at hheadline
  obtain ⟨counts, -, rfl⟩ := hheadline
  exact ⟨rfl, rfl⟩

theorem reportsOn_quotesIssue? :
    ReportsOn (fun group : StatementGroup => group.head.number) .warning
      fun group => ((quotesIssue? group).map Issue.headline).toList := by
  intro group headline hheadline
  dsimp only at hheadline
  rw [quotesIssue?_eq, Option.mem_toList] at hheadline
  split at hheadline
  · cases hheadline
    exact ⟨rfl, rfl⟩
  · cases hheadline

/-! ### What a report says -/

section

variable {options : CheckOptions} {path : Option String} {source : String}

/-- What a report says under some of the rules, when the source is checked at all. -/
theorem headlines_check_filter (hfixed : hasFreeSentinel (classify source) = false)
    (p : String → Bool) :
    headlines ((check options .all path source).issues.filter (p ·.rule)) =
      (kept (fun rule => !options.disabled.contains rule && p rule)
        (allIssues options (classify source))).mergeSort Headline.notAfter := by
  have hnone : (classify source).find? (·.spec == .free) = none := by
    rw [List.find?_eq_none]
    exact List.any_eq_false.mp hfixed
  have hissues : (check options .all path source).issues =
      sortIssues (dropDisabled options.disabled (allIssues options (classify source))) := by
    unfold check checkLines
    rw [hnone]
    rfl
  -- rules that are disabled and rules that are not asked for go in one step
  have hkept :
      headlines ((dropDisabled options.disabled (allIssues options (classify source))).filter
          (p ·.rule)) =
        kept (fun rule => !options.disabled.contains rule && p rule)
          (allIssues options (classify source)) := by
    rw [headlines_filter, dropDisabled,
      headlines_filter _ (fun rule => !options.disabled.contains rule), List.filter_filter, kept]
    simp only [Bool.and_comm]
  rw [hissues, filter_sortIssues, headlines_sortIssues, hkept]

/-- What a report says under one rule that is not disabled. -/
theorem headlines_check_filter_rule (hfixed : hasFreeSentinel (classify source) = false)
    {rule : String} (happlies : options.disabled.contains rule = false) :
    headlines ((check options .all path source).issues.filter (·.rule == rule)) =
      (headlines ((allIssues options (classify source)).filter (·.rule == rule))).mergeSort
        Headline.notAfter := by
  rw [headlines_check_filter hfixed (· == rule), kept, headlines_filter _ (· == rule)]
  congr 2
  funext headline
  cases heq : headline.rule == rule with
  | false => rw [Bool.and_false]
  | true => rw [beq_iff_eq.mp heq, happlies, Bool.not_false, Bool.and_true]

end

/-! ### Findings of one of the six checks -/

section

variable {options : CheckOptions} (hrules : options.rules = []) (lines : List Line)

include hrules

/-- The findings under a rule of one check only. -/
theorem filter_allIssues_of_part {rule : String} {names : List String} {issues : List Issue}
    (hpart : (checkParts options.limit options.level lines).filter (rule ∈ ·.1) =
      [(names, issues)]) :
    (allIssues options lines).filter (·.rule == rule) = issues.filter (·.rule == rule) := by
  rw [filter_allIssues lines hrules, hpart, List.flatMap_singleton]

/-- The findings under the only rule of a check. -/
theorem filter_allIssues_of_own {rule : String} {issues : List Issue}
    (hnames : NamesOnly [rule] issues)
    (hpart : (checkParts options.limit options.level lines).filter (rule ∈ ·.1) =
      [([rule], issues)]) :
    (allIssues options lines).filter (·.rule == rule) = issues := by
  rw [filter_allIssues_of_part hrules lines hpart, hnames.filter_eq_self]

theorem headlines_keywords (hstrict : options.level.isStrict) :
    headlines ((allIssues options lines).filter (·.rule == "H_SPEC_KEYWORD")) =
      lines.flatMap keywordHeadlines := by
  have hpart : (checkParts options.limit options.level lines).filter ("H_SPEC_KEYWORD" ∈ ·.1) =
      [(columnRules, checkColumns options.level lines)] := by
    simp [checkParts, columnRules, definitionRules, fieldRules, nameRules]
  -- the check has other rules beside this one, so that the findings are picked line by line
  rw [filter_allIssues_of_part hrules lines hpart, checkColumns, List.filter_flatMap,
    headlines_flatMap]
  simp only [headlines_filter_checkLineColumns hstrict]

theorem headlines_names :
    headlines ((allIssues options lines).filter (·.rule == "D_SPEC_MISSING_NAME")) =
      lines.flatMap nameHeadlines := by
  have hpart : (checkParts options.limit options.level lines).filter ("D_SPEC_MISSING_NAME" ∈ ·.1) =
      [(definitionRules, checkDefinitions options.level lines)] := by
    simp [checkParts, columnRules, definitionRules, fieldRules, nameRules]
  rw [filter_allIssues_of_part hrules lines hpart, checkDefinitions_eq_flatMap, List.filter_flatMap,
    headlines_flatMap]
  simp only [headlines_filter_checkDefinition]

theorem headlines_statements (hstandard : options.level.atLeastStandard)
    (hfixed : hasFreeSentinel lines = false) :
    headlines ((allIssues options lines).filter (·.rule == "MULTIPLE_STATEMENTS")) =
      (flagged false lines).flatMap fun p => headlines (multipleStatements false p.1 p.2) := by
  have hpart : (checkParts options.limit options.level lines).filter ("MULTIPLE_STATEMENTS" ∈ ·.1) =
      [(["MULTIPLE_STATEMENTS"], checkMultipleStatements lines)] := by
    simp [checkParts, columnRules, definitionRules, fieldRules, nameRules, hstandard]
  rw [filter_allIssues_of_own hrules lines (written_checkMultipleStatements lines).namesOnly hpart,
    checkMultipleStatements_eq hfixed, headlines_flatMap]

theorem headlines_indicators (hstandard : options.level.atLeastStandard) :
    headlines ((allIssues options lines).filter (·.rule == "INDICATOR_USAGE")) =
      lines.flatMap fun line => headlines (lineIndicators line) := by
  have hpart : (checkParts options.limit options.level lines).filter ("INDICATOR_USAGE" ∈ ·.1) =
      [(["INDICATOR_USAGE"], checkIndicators lines)] := by
    simp [checkParts, columnRules, definitionRules, fieldRules, nameRules, hstandard]
  rw [filter_allIssues_of_own hrules lines (written_checkIndicators lines).namesOnly hpart,
    checkIndicators, headlines_flatMap]

theorem headlines_parentheses (hstandard : options.level.atLeastStandard) :
    headlines ((allIssues options lines).filter (·.rule == "UNMATCHED_PARENTHESES")) =
      (statementGroups lines).flatMap fun g =>
        ((parenthesesIssue? g).map Issue.headline).toList := by
  have hpart : (checkParts options.limit options.level lines).filter
      ("UNMATCHED_PARENTHESES" ∈ ·.1) = [(["UNMATCHED_PARENTHESES"], checkParentheses lines)] := by
    simp [checkParts, columnRules, definitionRules, fieldRules, nameRules, hstandard]
  rw [filter_allIssues_of_own hrules lines (written_checkParentheses lines).namesOnly hpart,
    checkParentheses, headlines_filterMap, List.filterMap_eq_flatMap_toList]

theorem headlines_quotes (hstandard : options.level.atLeastStandard) :
    headlines ((allIssues options lines).filter (·.rule == "UNMATCHED_QUOTES")) =
      (statementGroups lines).flatMap fun g => ((quotesIssue? g).map Issue.headline).toList := by
  have hpart : (checkParts options.limit options.level lines).filter ("UNMATCHED_QUOTES" ∈ ·.1) =
      [(["UNMATCHED_QUOTES"], checkQuotes lines)] := by
    simp [checkParts, columnRules, definitionRules, fieldRules, nameRules, hstandard]
  rw [filter_allIssues_of_own hrules lines (written_checkQuotes lines).namesOnly hpart,
    checkQuotes, headlines_filterMap, List.filterMap_eq_flatMap_toList]

end

/-! ### When reports agree -/

section

variable {lines : List Line} (hincreasing : (lines.map Line.number).Pairwise (· < ·))

include hincreasing

theorem pairwise_number_flagged (inFreeBlock : Bool) :
    ((flagged inFreeBlock lines).map fun p => p.2.number).Pairwise (· < ·) := by
  rwa [← map_snd_flagged inFreeBlock lines, List.map_map] at hincreasing

/-- Statements begin on lines in their order. -/
theorem pairwise_number_heads : ((statementGroups lines).map (·.head.number)).Pairwise (· < ·) := by
  have hheads : ((statementGroups lines).map StatementGroup.head).Sublist lines := by
    rw [map_head_statementGroups]
    exact List.filter_sublist
  have hnumbers := hincreasing.sublist (hheads.map Line.number)
  rwa [List.map_map] at hnumbers

end

section

variable {options : CheckOptions} (hrules : options.rules = []) {as bs : List Line}
  (hcode : as.map Line.cropped = bs.map Line.cropped)
  (hincreasing : (as.map Line.number).Pairwise (· < ·))
  (hfixed : hasFreeSentinel as = false ∧ hasFreeSentinel bs = false)

include hrules hcode hincreasing hfixed

/-- **What is reported under the six rules tells what their checks read.** -/
theorem commentAreasAlike_of_sorted (has : ∀ line ∈ as, line.Lettered)
    (hbs : ∀ line ∈ bs, line.Lettered) {applies : String → Bool}
    (h : ∀ rule ∈ commentAreaRules, applies rule →
      (headlines ((allIssues options as).filter (·.rule == rule))).mergeSort Headline.notAfter =
        (headlines ((allIssues options bs).filter (·.rule == rule))).mergeSort Headline.notAfter) :
    CommentAreasAlike options.level applies as bs := by
  have hhead := map_head_cropped_eq hcode
  have hheads := pairwise_number_heads hincreasing
  have hsome : ∀ x y : Option Headline, x.toList = y.toList → x = y := fun x y hxy => by
    simpa using congrArg List.head? hxy
  -- for each check, its sorted findings are those of the lines one after the other
  constructor
  · -- the keywords of control lines
    intro hstrict happlies
    have hsorted := h _ (by decide) happlies
    rw [headlines_keywords hrules as hstrict, headlines_keywords hrules bs hstrict] at hsorted
    exact map_reading_eq_of_sorted_eq reportsOn_keywordHeadlines hincreasing hcode
      (fun _ _ => number_eq) (fun _ _ _ => lacksKeywords_eq_of_headlines) hsorted
  · -- the names of definitions
    intro happlies
    have hsorted := h _ (by decide) happlies
    rw [headlines_names hrules as, headlines_names hrules bs] at hsorted
    exact map_reading_eq_of_sorted_eq reportsOn_nameHeadlines hincreasing hcode
      (fun _ _ => number_eq) (fun _ _ _ => lacksName_eq_of_headlines) hsorted
  · -- statements, each line of which comes with whether it is in a free block
    intro hstandard happlies
    have hsorted := h _ (by decide) happlies
    rw [headlines_statements hrules as hstandard hfixed.1,
      headlines_statements hrules bs hstandard hfixed.2] at hsorted
    refine map_reading_eq_of_sorted_eq reportsOn_multipleStatements
      (pairwise_number_flagged hincreasing false) (map_flagged_cropped_eq hcode has hbs false)
      (fun _ _ hab => number_eq (Prod.mk.inj hab).2) ?_ hsorted
    rintro ⟨inFreeBlock, a⟩ ⟨inFreeBlock', b⟩ hab hsaid
    obtain ⟨rfl, hline⟩ := Prod.mk.inj hab
    exact (headlines_multipleStatements_iff inFreeBlock hline).mp hsaid
  · -- numbered indicators
    intro hstandard happlies
    have hsorted := h _ (by decide) happlies
    rw [headlines_indicators hrules as hstandard,
      headlines_indicators hrules bs hstandard] at hsorted
    exact map_reading_eq_of_sorted_eq reportsOn_lineIndicators hincreasing hcode
      (fun _ _ => number_eq)
      (fun _ _ hline => (headlines_lineIndicators_iff hline).mp) hsorted
  · -- parentheses, on the line that a statement begins on
    intro hstandard happlies
    have hsorted := h _ (by decide) happlies
    rw [headlines_parentheses hrules as hstandard,
      headlines_parentheses hrules bs hstandard] at hsorted
    exact map_reading_eq_of_sorted_eq reportsOn_parenthesesIssue? hheads hhead
      (fun _ _ => number_eq)
      (fun _ _ hline hsaid =>
        (headline_parenthesesIssue?_iff hline).mp (hsome _ _ hsaid)) hsorted
  · -- quotes, likewise
    intro hstandard happlies
    have hsorted := h _ (by decide) happlies
    rw [headlines_quotes hrules as hstandard, headlines_quotes hrules bs hstandard] at hsorted
    exact map_reading_eq_of_sorted_eq reportsOn_quotesIssue? hheads hhead (fun _ _ => number_eq)
      (fun _ _ hline hsaid => (headline_quotesIssue?_iff hline).mp (hsome _ _ hsaid)) hsorted

end

/-! ### Sources that differ in comment areas -/

/-- Two lines of fixed types that reach column 80 and agree up to it. -/
structure CodeColumnsAgree (a b : Line) : Prop where
  /-- Both are of a fixed type. -/
  fixed : a.spec.isFixed ∧ b.spec.isFixed
  /-- Both are at least 80 characters long. -/
  reach : 80 ≤ a.length ∧ 80 ≤ b.length
  /-- Columns 1 to 80 are the same. -/
  columns : codeColumns a.raw = codeColumns b.raw

/-- Two sources without the sentinel and with as many lines, of which those that differ agree up to
column 80. -/
structure DifferInCommentAreas (a b : String) : Prop where
  /-- They have as many lines. -/
  length_eq : (classify a).length = (classify b).length
  /-- Lines that differ are of fixed types and agree up to column 80. -/
  agree : ∀ pair ∈ (classify a).zip (classify b), pair.1 ≠ pair.2 → CodeColumnsAgree pair.1 pair.2
  /-- Neither source has the sentinel. -/
  fixed : hasFreeSentinel (classify a) = false ∧ hasFreeSentinel (classify b) = false

namespace DifferInCommentAreas

variable {a b : String} (h : DifferInCommentAreas a b)

include h

/-- The lines are the same without their comment areas. -/
theorem map_cropped_eq : (classify a).map Line.cropped = (classify b).map Line.cropped := by
  refine List.ext_getElem (by simp [h.length_eq]) ?_
  intro n hn hn'
  rw [List.length_map] at hn hn'
  rw [List.getElem_map, List.getElem_map]
  have hmem : ((classify a)[n], (classify b)[n]) ∈ (classify a).zip (classify b) := by
    have hzip : n < ((classify a).zip (classify b)).length := by
      rw [List.length_zip]
      omega
    rw [← List.getElem_zip (h := hzip)]
    exact List.getElem_mem hzip
  obtain ⟨raw, hraw⟩ := exists_classify_of_getElem? (List.getElem?_eq_getElem hn)
  obtain ⟨other, hother⟩ := exists_classify_of_getElem? (List.getElem?_eq_getElem hn')
  -- lines that agree are cropped to the same; the others agree up to where they are cropped
  by_cases heq : (classify a)[n] = (classify b)[n]
  · rw [heq]
  · have hagree := h.agree _ hmem heq
    rw [hraw, hother] at hagree ⊢
    obtain ⟨hfixed, -, hcolumns⟩ := hagree
    simp only [Line.spec_classify, Line.raw_classify] at hfixed hcolumns
    exact Line.cropped_classify_eq _ hfixed.1 hfixed.2 hcolumns

omit h in
/-- A line of 80 columns with one remark behind it and with another. -/
theorem of_append {code remark other : String} (hlength : charLength code = 80)
    (hfixed : (detectSpec code).isFixed) (hcode : OneLine code) (hremark : OneLine remark)
    (hother : OneLine other) : DifferInCommentAreas (code ++ remark) (code ++ other) := by
  have hlines : classify (code ++ remark) = [Line.classify 1 (code ++ remark)] ∧
      classify (code ++ other) = [Line.classify 1 (code ++ other)] :=
    ⟨classify_of_oneLine (hcode.append hremark), classify_of_oneLine (hcode.append hother)⟩
  have hspec : ∀ tail, detectSpec (code ++ tail) = detectSpec code :=
    detectSpec_append hfixed (by omega)
  have hcolumns : ∀ tail, codeColumns (code ++ tail) = code := by
    intro tail
    rw [codeColumns, slice, String.toList_append, List.drop_zero, List.take_left' hlength,
      String.ofList_toList]
  have hreach : ∀ tail, 80 ≤ charLength (code ++ tail) := by
    intro tail
    rw [charLength, String.toList_append, List.length_append, ← charLength]
    omega
  -- the sentinel is of no fixed type
  have hfree : ∀ tail, hasFreeSentinel [Line.classify 1 (code ++ tail)] = false := by
    intro tail
    rw [hasFreeSentinel, List.any_cons, List.any_nil, Bool.or_false, Line.spec_classify, hspec]
    cases hkind : detectSpec code with
    | free => rw [hkind] at hfixed; cases hfixed
    | _ => rfl
  constructor
  · rw [hlines.1, hlines.2]
    rfl
  · rw [hlines.1, hlines.2]
    intro pair hpair _
    obtain rfl := List.mem_singleton.mp hpair
    refine ⟨?_, ?_, ?_⟩
    · simp only [Line.spec_classify, hspec, hfixed, and_self]
    · simp only [Line.length, Line.raw_classify]
      exact ⟨hreach remark, hreach other⟩
    · simp only [Line.raw_classify, hcolumns]
  · rw [hlines.1, hlines.2]
    exact ⟨hfree remark, hfree other⟩

/-- Under rules that all read the same in the two sources, the reports say the same. -/
theorem headlines_check_eq {options : CheckOptions} (hrules : options.rules = [])
    (path : Option String) {p : String → Bool} (hlength : p "LINE_LENGTH" = false)
    (halike : CommentAreasAlike options.level
      (fun rule => !options.disabled.contains rule && p rule) (classify a) (classify b)) :
    headlines ((check options .all path a).issues.filter (p ·.rule)) =
      headlines ((check options .all path b).issues.filter (p ·.rule)) := by
  have hkeep : (!options.disabled.contains "LINE_LENGTH" && p "LINE_LENGTH") = false := by
    rw [hlength, Bool.and_false]
  have hkept := kept_allIssues h.map_cropped_eq halike (fun _ => lettered_of_mem_classify)
    (fun _ => lettered_of_mem_classify) hrules rfl hkeep h.fixed.2
  rw [headlines_check_filter h.fixed.1, headlines_check_filter h.fixed.2, hkept]

/-- **The reports agree exactly when the sources read the same to the six checks.** -/
theorem headlines_check_eq_iff {options : CheckOptions} (hrules : options.rules = [])
    (path : Option String) :
    headlines ((check options .all path a).issues.filter (·.rule != "LINE_LENGTH")) =
        headlines ((check options .all path b).issues.filter (·.rule != "LINE_LENGTH")) ↔
      CommentAreasAlike options.level (fun rule => !options.disabled.contains rule) (classify a)
        (classify b) := by
  constructor
  · intro hsame
    refine commentAreasAlike_of_sorted hrules h.map_cropped_eq (pairwise_number_classify a) h.fixed
      (fun _ => lettered_of_mem_classify) (fun _ => lettered_of_mem_classify) ?_
    intro rule hrule happlies
    rw [Bool.not_eq_true'] at happlies
    have hother : rule ≠ "LINE_LENGTH" := by
      rintro rfl
      exact absurd hrule (by decide)
    -- the findings under the rule are picked out of what the two reports say
    have hpick : ∀ issues : List Issue,
        (headlines (issues.filter (·.rule != "LINE_LENGTH"))).filter (·.rule == rule) =
          headlines (issues.filter (·.rule == rule)) := by
      intro issues
      rw [← headlines_filter _ (· == rule), List.filter_filter]
      congr 2
      funext issue
      cases heq : issue.rule == rule with
      | false => rw [Bool.false_and]
      | true => rw [Bool.true_and, beq_iff_eq.mp heq, bne_iff_ne.mpr hother]
    have hreported := congrArg (List.filter fun headline => headline.rule == rule) hsame
    rwa [hpick, hpick, headlines_check_filter_rule h.fixed.1 happlies,
      headlines_check_filter_rule h.fixed.2 happlies] at hreported
  · -- line length is not asked for, whether it is disabled or not
    intro halike
    exact h.headlines_check_eq hrules path (p := (· != "LINE_LENGTH")) rfl
      (halike.mono fun rule hrule => (Bool.and_eq_true_iff.mp hrule).1)

end DifferInCommentAreas

/-- **What the comment area tells.**  For two sources that differ in comment areas only, checked at
any level without rules of the user, the findings apart from those on line length say the same
exactly when the sources read the same to those of the six checks that run.  The findings under all
other rules say the same in any case, in the same order. -/
theorem report_eq_iff_commentAreasAlike {a b : String} (h : DifferInCommentAreas a b)
    (options : CheckOptions) (path : Option String) :
    let said := fun source =>
      headlines ((check { options with rules := [] } .all path source).issues.filter
        (·.rule != "LINE_LENGTH"))
    (said a = said b ↔ CommentAreasAlike options.level (fun rule => !options.disabled.contains rule)
      (classify a) (classify b)) ∧
      (said a).filter (!commentAreaRules.contains ·.rule) =
        (said b).filter (!commentAreaRules.contains ·.rule) := by
  intro said
  refine ⟨h.headlines_check_eq_iff rfl path, ?_⟩
  -- under the other rules there is nothing of the comment area to read
  let others := fun rule => rule != "LINE_LENGTH" && !commentAreaRules.contains rule
  have hothers : ∀ source, (said source).filter (!commentAreaRules.contains ·.rule) =
      headlines ((check { options with rules := [] } .all path source).issues.filter
        (others ·.rule)) := by
    intro source
    rw [headlines_filter _ others]
    dsimp only [said]
    rw [headlines_filter _ (· != "LINE_LENGTH"), List.filter_filter]
    simp only [others, Bool.and_comm]
  rw [hothers, hothers]
  refine h.headlines_check_eq (p := others) rfl path (by decide)
    (CommentAreasAlike.of_forall_not ?_)
  intro rule hrule
  simp only [others, List.contains_iff_mem.mpr hrule, Bool.not_true, Bool.and_false]

/-- Two indicators behind a calculation: at the lowest level no check reads them. -/
theorem report_eq_of_basic :
    let code := padRight 80 "     C"
    let said := fun source => headlines ((check { level := .basic } .all none source).issues.filter
      (·.rule != "LINE_LENGTH"))
    DifferInCommentAreas (code ++ "*IN03") (code ++ "*IN04") ∧
      said (code ++ "*IN03") = said (code ++ "*IN04") := by
  intro code said
  have hspec : detectSpec code = .calculation := by decide
  have h : DifferInCommentAreas (code ++ "*IN03") (code ++ "*IN04") :=
    .of_append (by decide) (by rw [hspec]; rfl) (by decide) (by decide) (by decide)
  have hnames : ∀ remark, OneLine remark →
      (classify (code ++ remark)).map Line.lacksName = [false] := by
    intro remark hremark
    rw [classify_of_oneLine (OneLine.append (by decide) hremark)]
    have hsame : detectSpec (code ++ remark) = detectSpec code :=
      detectSpec_append (by rw [hspec]; rfl) (by decide) remark
    simp [Line.lacksName, hsame, hspec]
  have halike : CommentAreasAlike .basic (fun rule => !([] : List String).contains rule)
      (classify (code ++ "*IN03")) (classify (code ++ "*IN04")) := by
    have hstandard : ∀ {P : Prop}, Level.basic.atLeastStandard → P := fun h => Bool.noConfusion h
    have hstrict : ∀ {P : Prop}, Level.basic.isStrict → P := fun h => Bool.noConfusion h
    -- only the rule on names runs at the lowest level
    refine ⟨hstrict, fun _ => ?_, hstandard, hstandard, hstandard, hstandard⟩
    rw [hnames _ (by decide), hnames _ (by decide)]
  exact ⟨h, (report_eq_iff_commentAreasAlike h { level := .basic } none).1.mpr halike⟩

/-- An indicator behind a calculation is reported, although it stands in the comment area. -/
theorem report_reads_comment_area :
    let code := padRight 80 "     C"
    let said := fun source => headlines ((check {} .all none source).issues.filter
      (·.rule != "LINE_LENGTH"))
    DifferInCommentAreas (code ++ " done") (code ++ "*IN03") ∧
      said (code ++ " done") ≠ said (code ++ "*IN03") := by
  intro code said
  have hcode : OneLine code := by decide
  have h : DifferInCommentAreas (code ++ " done") (code ++ "*IN03") :=
    .of_append (by decide) (by decide) hcode (by decide) (by decide)
  refine ⟨h, fun hsame => ?_⟩
  have hindicators := ((h.headlines_check_eq_iff rfl none).mp hsame).indicators rfl rfl
  rw [classify_of_oneLine (hcode.append (by decide)),
    classify_of_oneLine (hcode.append (by decide))] at hindicators
  simp only [List.map_cons, List.map_nil, Line.indicators, Line.isComment_classify,
    Line.raw_classify, charAt?, indicatorUses, code, padRight, String.toList_append,
    String.toList_ofList] at hindicators
  exact absurd hindicators (by decide)

end RpgLint
