import Mathlib.Algebra.BigOperators.Group.List.Basic
import Mathlib.Algebra.GroupWithZero.Nat
import RpgLint.Proofs.Line.Statistics
import RpgLint.Proofs.Report.Disabling

/-!
# Numbers of one report and of several

A report counts its findings and its lines, and the numbers of several reports are added up.  Adding
them is associative and commutative, so that the reports may be taken together in any groups and in
any order; and the exit code, which looks at each report on its own, can be read off the sum.

## Main definitions

* `Report.Balanced` — the numbers of a report agree with its findings and with each other.
* `Summary.IsSumOf` — numbers that are added up field by field.
* `Merging` — a way to take reports together.

## Main results

* `balanced_checkLines` — every report is balanced.
* `isSumOf_aggregate`, `Merging.summary_eq_aggregate` — the numbers of several reports.
* `exitCode_eq` — the exit code as a function of these numbers.
* `reports_balanced_and_summed` — all of this for the reports on a list of sources.
-/

namespace RpgLint

/-! ### Findings, each counted once -/

namespace Summary

/-- Every finding is of exactly one severity. -/
theorem length_eq_add_count (issues : List Issue) :
    issues.length = count .error issues + count .warning issues + count .info issues := by
  induction issues with
  | nil => rfl
  | cons issue issues ih =>
    -- a finding counts one under its own severity and nothing under the others
    have hcount : ∀ severity, count severity (issue :: issues) =
        count severity issues + if issue.severity == severity then 1 else 0 := fun severity =>
      List.countP_cons
    rw [List.length_cons, ih, hcount, hcount, hcount]
    cases issue.severity <;> simp <;> omega

/-- There are errors exactly when some finding is one. -/
theorem count_error_eq_zero_iff (issues : List Issue) :
    count .error issues = 0 ↔ issues.any (·.isError) = false := by
  rw [count, List.countP_eq_zero, List.any_eq_false]
  rfl

end Summary

/-- The numbers of a report agree with its findings and with each other. -/
structure Report.Balanced (report : Report) : Prop where
  /-- The findings are counted, in all and of each severity. -/
  tallied : report.Tallied
  /-- A source is valid when there are no errors. -/
  valid : report.valid = true ↔ report.summary.errors = 0
  /-- The severities add up to all findings. -/
  total : report.summary.total =
    report.summary.errors + report.summary.warnings + report.summary.infos
  /-- The kinds of lines add up to all lines. -/
  checkedLines : (SpecType.all.map report.summary.specs).sum = report.summary.checkedLines

/-- **Every report is balanced**, also that on a member which is refused as a whole. -/
theorem balanced_checkLines (options : CheckOptions) (scope : Scope) (path : Option String)
    (lines : List Line) : (checkLines options scope path lines).Balanced := by
  have htallied := tallied_checkLines options scope path lines
  refine ⟨htallied, ?_, ?_, ?_⟩
  · -- valid means no error, and errors are counted
    rw [htallied.valid, htallied.errors, Summary.count_error_eq_zero_iff, Bool.not_eq_true']
  · rw [htallied.total, htallied.errors, htallied.warnings, htallied.infos]
    exact Summary.length_eq_add_count _
  · -- all lines are counted by their kind, or none is in a member that is refused
    cases hfree : hasFreeSentinel lines with
    | false =>
      rw [checkLines_of_fixed options scope path hfree]
      exact SpecCounts.sum_of lines
    | true =>
      obtain ⟨before, sentinel, after, rfl, hbefore, hsentinel⟩ := exists_first_sentinel hfree
      rw [checkLines_of_sentinel options scope path hbefore hsentinel]
      rfl

/-- A member that is refused has no checked lines. -/
theorem checkLines_counts_of_sentinel (options : CheckOptions) (scope : Scope)
    (path : Option String) {lines : List Line} (hfree : hasFreeSentinel lines) :
    (checkLines options scope path lines).summary.checkedLines = 0 ∧
      (checkLines options scope path lines).summary.specs = .zero := by
  obtain ⟨before, sentinel, after, rfl, hbefore, hsentinel⟩ := exists_first_sentinel hfree
  rw [checkLines_of_sentinel options scope path hbefore hsentinel]
  exact ⟨rfl, rfl⟩

/-! ### Adding up -/

namespace Summary

variable (a b c : Summary)

theorem add_assoc : (a.add b).add c = a.add (b.add c) := by
  ext <;> simp [add, SpecCounts.add, Nat.add_assoc]

theorem add_comm : a.add b = b.add a := by
  ext <;> simp [add, SpecCounts.add, Nat.add_comm]

@[simp] theorem zero_add : Summary.zero.add a = a := by
  ext <;> simp [add, zero, SpecCounts.add, SpecCounts.zero]

@[simp] theorem add_zero : a.add .zero = a := by
  rw [add_comm, zero_add]

/-- Numbers are those of some reports, added up field by field. -/
structure IsSumOf (reports : List Report) (sum : Summary) : Prop where
  /-- All findings. -/
  total : sum.total = (reports.map (·.summary.total)).sum
  /-- The errors. -/
  errors : sum.errors = (reports.map (·.summary.errors)).sum
  /-- The warnings. -/
  warnings : sum.warnings = (reports.map (·.summary.warnings)).sum
  /-- The findings that inform. -/
  infos : sum.infos = (reports.map (·.summary.infos)).sum
  /-- The lines. -/
  checkedLines : sum.checkedLines = (reports.map (·.summary.checkedLines)).sum
  /-- The lines of each kind. -/
  specs : ∀ spec, sum.specs spec = (reports.map (·.summary.specs spec)).sum

end Summary

namespace Report

/-- The numbers that were added up so far may as well be added at the end. -/
theorem foldl_add_eq (reports : List Report) (start : Summary) :
    reports.foldl (fun total report => total.add report.summary) start =
      start.add (aggregate reports) := by
  induction reports generalizing start with
  | nil => exact (Summary.add_zero start).symm
  | cons report reports ih =>
    have hcons : aggregate (report :: reports) = report.summary.add (aggregate reports) := by
      rw [aggregate, List.foldl_cons, Summary.zero_add, ih]
    rw [List.foldl_cons, ih, hcons, Summary.add_assoc]

@[simp] theorem aggregate_cons (report : Report) (reports : List Report) :
    aggregate (report :: reports) = report.summary.add (aggregate reports) := by
  rw [aggregate, List.foldl_cons, Summary.zero_add, foldl_add_eq]

theorem aggregate_append (reports others : List Report) :
    aggregate (reports ++ others) = (aggregate reports).add (aggregate others) := by
  rw [aggregate, List.foldl_append, ← aggregate, foldl_add_eq]

/-- The order of the reports does not matter. -/
theorem aggregate_perm {reports others : List Report} (h : reports.Perm others) :
    aggregate reports = aggregate others := by
  induction h with
  | nil => rfl
  | cons report _ ih => rw [aggregate_cons, aggregate_cons, ih]
  | swap first second reports =>
    -- the first two reports change places
    rw [aggregate_cons, aggregate_cons, aggregate_cons, aggregate_cons, ← Summary.add_assoc,
      Summary.add_comm second.summary, Summary.add_assoc]
  | trans _ _ ih ih' => rw [ih, ih']

/-- A number that is zero for no reports and added for two is added up over all of them. -/
theorem aggregate_field {f : Summary → Nat} (hzero : f .zero = 0)
    (hadd : ∀ a b : Summary, f (a.add b) = f a + f b) (reports : List Report) :
    f (aggregate reports) = (reports.map (f ·.summary)).sum := by
  induction reports with
  | nil => exact hzero
  | cons report reports ih => rw [aggregate_cons, hadd, ih, List.map_cons, List.sum_cons]

/-- **Reports are added up field by field.** -/
theorem isSumOf_aggregate (reports : List Report) : (aggregate reports).IsSumOf reports where
  total := aggregate_field (f := Summary.total) rfl (fun _ _ => rfl) reports
  errors := aggregate_field (f := Summary.errors) rfl (fun _ _ => rfl) reports
  warnings := aggregate_field (f := Summary.warnings) rfl (fun _ _ => rfl) reports
  infos := aggregate_field (f := Summary.infos) rfl (fun _ _ => rfl) reports
  checkedLines := aggregate_field (f := Summary.checkedLines) rfl (fun _ _ => rfl) reports
  specs spec := aggregate_field (f := fun summary => summary.specs spec) rfl
    (fun _ _ => rfl) reports

end Report

/-- A way to take reports together: some of them at once, and then group by group. -/
inductive Merging
  /-- These reports, one after the other. -/
  | batch (reports : List Report)
  /-- The reports of two groups. -/
  | join (left right : Merging)

namespace Merging

/-- The reports that are taken together. -/
def reports : Merging → List Report
  | batch reports => reports
  | join left right => left.reports ++ right.reports

/-- Their numbers. -/
def summary : Merging → Summary
  | batch reports => Report.aggregate reports
  | join left right => left.summary.add right.summary

/-- The numbers of groups are those of their reports in one row. -/
theorem summary_eq (merging : Merging) : merging.summary = Report.aggregate merging.reports := by
  induction merging with
  | batch reports => rfl
  | join left right ihleft ihright =>
    rw [summary, reports, ihleft, ihright, Report.aggregate_append]

/-- **The groups do not matter**, and neither does the order in which the reports stand in them. -/
theorem summary_eq_aggregate {reports : List Report} (merging : Merging)
    (h : merging.reports.Perm reports) : merging.summary = Report.aggregate reports := by
  rw [summary_eq]
  exact Report.aggregate_perm h

end Merging

/-! ### The exit code -/

/-- A sum of numbers is positive when one of them is. -/
theorem sum_map_pos_iff {reports : List Report} {f : Report → Nat} :
    0 < (reports.map f).sum ↔ ∃ report ∈ reports, 0 < f report := by
  rw [List.sum_pos_iff_exists_pos_nat]
  constructor
  · rintro ⟨number, hmem, hpos⟩
    obtain ⟨report, hreport, rfl⟩ := List.mem_map.mp hmem
    exact ⟨report, hreport, hpos⟩
  · rintro ⟨report, hreport, hpos⟩
    exact ⟨f report, List.mem_map_of_mem hreport, hpos⟩

/-- **The exit code can be read off the numbers of all reports**, although it looks at the verdict
and the warnings of each report on its own. -/
theorem exitCode_eq (policy : ExitPolicy) {reports : List Report}
    (h : ∀ report ∈ reports, report.Balanced) :
    exitCode policy reports =
      let total := Report.aggregate reports
      if policy.warnOnly then 0
      else if 0 < total.errors ∨ policy.warningsAsErrors ∧ 0 < total.errors + total.warnings then 1
      else 0 := by
  have hsum := Report.isSumOf_aggregate reports
  -- a report is invalid when it has errors, and errors are added up; likewise warnings
  have herrors : 0 < (Report.aggregate reports).errors ↔
      ∃ report ∈ reports, report.valid = false := by
    rw [hsum.errors, sum_map_pos_iff]
    refine exists_congr fun report => and_congr_right fun hmem => ?_
    rw [Nat.pos_iff_ne_zero, Ne, ← (h report hmem).valid, Bool.not_eq_true]
  have hwarnings : 0 < (Report.aggregate reports).warnings ↔
      ∃ report ∈ reports, report.hasWarnings := by
    rw [hsum.warnings, sum_map_pos_iff]
    simp [Report.hasWarnings]
  have hfails :
      (reports.any fun report => !report.valid || (policy.warningsAsErrors && report.hasWarnings)) ↔
        0 < (Report.aggregate reports).errors ∨ policy.warningsAsErrors ∧
          0 < (Report.aggregate reports).errors + (Report.aggregate reports).warnings := by
    rw [List.any_eq_true]
    constructor
    · rintro ⟨report, hmem, hreport⟩
      rw [Bool.or_eq_true, Bool.and_eq_true, Bool.not_eq_true'] at hreport
      -- an invalid report has errors; one with warnings fails when they count as errors
      rcases hreport with hinvalid | ⟨hstrict, hwarns⟩
      · exact Or.inl (herrors.mpr ⟨report, hmem, hinvalid⟩)
      · have hpos := hwarnings.mpr ⟨report, hmem, hwarns⟩
        exact Or.inr ⟨hstrict, by omega⟩
    · intro hcount
      -- either some report has errors, or warnings count and some report has one
      rcases Nat.eq_zero_or_pos (Report.aggregate reports).errors with hzero | hpos
      · rw [hzero] at hcount
        obtain ⟨hstrict, hpos⟩ := hcount.resolve_left (Nat.lt_irrefl 0)
        obtain ⟨report, hmem, hwarns⟩ := hwarnings.mp (by omega)
        exact ⟨report, hmem, by rw [hstrict, hwarns, Bool.and_self, Bool.or_true]⟩
      · obtain ⟨report, hmem, hinvalid⟩ := herrors.mp hpos
        exact ⟨report, hmem, by rw [hinvalid, Bool.not_false, Bool.true_or]⟩
  unfold exitCode
  simp only [hfails]

/-! ### The reports on some sources -/

/-- **Reports, totals and the exit code agree.**  Every report on the sources is balanced, and one
on a member with a sentinel has no checked lines.  The numbers of all reports are added up field by
field, in whatever groups and in whatever order they are taken together, and tell the exit code. -/
theorem reports_balanced_and_summed (options : CheckOptions) (scope : Scope)
    (sources : List (Option String × String)) (policy : ExitPolicy) :
    let reports := sources.map fun (path, source) => check options scope path source
    let total := Report.aggregate reports
    (∀ report ∈ reports, report.Balanced) ∧
      (∀ path source, (path, source) ∈ sources → hasFreeSentinel (classify source) →
        (check options scope path source).summary.checkedLines = 0 ∧
          (check options scope path source).summary.specs = .zero) ∧
      total.IsSumOf reports ∧
      (∀ merging : Merging, merging.reports.Perm reports → merging.summary = total) ∧
      exitCode policy reports =
        if policy.warnOnly then 0
        else if 0 < total.errors ∨
            policy.warningsAsErrors ∧ 0 < total.errors + total.warnings then 1
        else 0 := by
  intro reports total
  have hbalanced : ∀ report ∈ reports, report.Balanced := by
    intro report hreport
    obtain ⟨⟨path, source⟩, -, rfl⟩ := List.mem_map.mp hreport
    exact balanced_checkLines options scope path (classify source)
  refine ⟨hbalanced, ?_, Report.isSumOf_aggregate reports, ?_, exitCode_eq policy hbalanced⟩
  · intro path source _ hfree
    exact checkLines_counts_of_sentinel options scope path hfree
  · intro merging hperm
    exact merging.summary_eq_aggregate hperm

end RpgLint
