import RpgLint.Proofs.Report.Places

/-!
# Rules that no report has

A line of a fixed type is classified by the letter in column 6, so that it never lacks the letter
that the checks look for there.  And a member with the `**FREE` sentinel is refused before any check
sees it, so that the checks of free-form members never find one.  The rules that remain to be found
in either way are in no report.

## Main definitions

* `Line.OwnsLetter` — a line of a fixed type shows the letter of its type.
* `unreachableRules` — the rules that no report has.

## Main results

* `ownsLetter_of_mem_classify` — classified lines show the letter of their type.
* `unreachable_rules_unreported` — without rules of the user, no report has one of the unreachable
  rules.
-/

namespace RpgLint

/-! ### The letter in column 6 -/

/-- A line of a fixed type shows the letter of its type in column 6, in either case. -/
def Line.OwnsLetter (line : Line) : Prop :=
  line.spec.isFixed → ∃ letter, charAt? line.raw 5 = some letter ∧
    String.singleton letter.toUpper = line.spec.code

/-- A letter is the short name of the type that it stands for. -/
theorem SpecType.singleton_toUpper_of_ofLetter? {c : Char} {spec : SpecType}
    (h : ofLetter? c = some spec) :
    String.singleton c.toUpper = spec.code := by
  unfold ofLetter? at h
  split at h
  -- any other letter stands for no type
  case h_8 => cases h
  all_goals
    next hletter =>
      rw [hletter, ← Option.some.inj h]
      rfl

/-- **Classified lines show the letter of their type.** -/
theorem ownsLetter_of_mem_classify {source : String} {line : Line} (h : line ∈ classify source) :
    line.OwnsLetter := by
  obtain ⟨n, hat⟩ := List.mem_iff_getElem?.mp h
  obtain ⟨raw, rfl⟩ := exists_classify_of_getElem? hat
  unfold Line.OwnsLetter
  rw [Line.spec_classify, Line.raw_classify]
  intro hfixed
  -- the letter decided the type
  obtain ⟨letter, hletter, hspec⟩ := exists_letter_of_isFixed raw hfixed
  exact ⟨letter, hletter, SpecType.singleton_toUpper_of_ofLetter? hspec⟩

/-- Such a line has no finding on its letter. -/
theorem letterIssue?_eq_none {line : Line} (h : line.OwnsLetter) {expected : Char}
    (hfixed : line.spec.isFixed) (hcode : line.spec.code = String.singleton expected)
    (hupper : expected.toUpper = expected) :
    letterIssue? line expected = none := by
  obtain ⟨letter, hat, hletter⟩ := h hfixed
  have hsame : letter.toUpper = expected := by simpa [hcode] using hletter
  simp only [letterIssue?, show Field.specLetter.start = 5 from rfl, hat, sameLetter, hsame, hupper,
    beq_self_eq_true, if_true]

/-! ### Findings on several statements -/

/-- In a member without a sentinel there are two places for several statements on a line. -/
theorem exists_place_of_mem_multipleStatements {inFreeBlock : Bool} {line : Line} {issue : Issue}
    (h : issue ∈ multipleStatements false inFreeBlock line) :
    ∃ place ∈ ["in a calculation", "inside /FREE"], issue = multipleStatementsIssue line place := by
  unfold multipleStatements at h
  grind

/-- Neither of them is a member with the sentinel. -/
theorem not_contains_message_of_mem_multipleStatements {inFreeBlock : Bool} {line : Line}
    {issue : Issue} (h : issue ∈ multipleStatements false inFreeBlock line) :
    contains issue.message "**FREE source" = false := by
  obtain ⟨place, hplace, rfl⟩ := exists_place_of_mem_multipleStatements h
  rw [Bool.eq_false_iff, ne_eq, contains, Chars.hasInfix_iff]
  intro hinfix
  -- the text begins with an asterisk, and no part of the message has one
  have hstar : '*' ∈ (multipleStatementsIssue line place).message.toList :=
    hinfix.subset (by decide)
  have hplaces : ∀ place ∈ ["in a calculation", "inside /FREE"], '*' ∉ place.toList := by decide
  simp only [multipleStatementsIssue, String.toList_append, toList_toString,
    List.mem_append] at hstar
  rcases hstar with (hcount | htext) | hnamed
  · exact absurd (Nat.isDigit_of_mem_toDigits (by decide) (by decide) hcount) (by decide)
  · exact absurd htext (by decide)
  · exact hplaces place hplace hnamed

/-! ### The rules -/

/-- The rules that are reported on lines without their letter, and on free-form members. -/
def unreachableRules : List String :=
  ["H_SPEC_COL6", "F_SPEC_COL6", "D_SPEC_COL6", "P_SPEC_COL6", "C_SPEC_COL6",
    "FREE_FORMAT_CONFUSION", "MIXED_FORMAT", "FREE_POSITION"]

/-- The rules of a check that has one of them. -/
def haveUnreachableRules (names : List String) : Bool :=
  [columnRules, definitionRules, ["MIXED_FORMAT", "FREE_POSITION"],
    ["FREE_FORMAT_CONFUSION", "FREE_AFTER_FIXED"]].contains names

theorem not_mem_unreachableRules :
    ∀ names ∈ partNames, haveUnreachableRules names = false →
      ∀ name ∈ names, name ∉ unreachableRules := by
  decide

section

variable {limit : LengthLimit} {level : Level} {lines : List Line}

theorem filter_checkParts_unreachable :
    (checkParts limit level lines).filter (haveUnreachableRules ·.1) =
      [(columnRules, checkColumns level lines), (definitionRules, checkDefinitions level lines),
        (["MIXED_FORMAT", "FREE_POSITION"], if level.isStrict then checkFullyFree lines else []),
        (["FREE_FORMAT_CONFUSION", "FREE_AFTER_FIXED"], checkFreeMisuse lines)] := by
  simp [checkParts, haveUnreachableRules, columnRules, definitionRules, fieldRules, nameRules]

section

variable (hletters : ∀ line ∈ lines, line.OwnsLetter)

include hletters

/-- Lines that show the letter of their type have no other findings on columns than those on what
follows. -/
theorem namesOnly_checkColumns_of_ownsLetter :
    NamesOnly (columnRules.drop 4) (checkColumns level lines) := by
  -- the letter that is looked for is the one that the type is named by
  have hletter : ∀ p ∈ columnLetters,
      p.1.isFixed ∧ p.1.code = String.singleton p.2 ∧ p.2.toUpper = p.2 := by decide
  refine (written_checkColumns_of level lines (List.Subset.refl _) ?_).namesOnly
  intro line hline spec letter hmem hspec
  obtain ⟨hfixed, hcode, hupper⟩ := hletter (spec, letter) hmem
  subst hspec
  rw [letterIssue?_eq_none (hletters line hline) hfixed hcode hupper]
  exact writtenIn_nil

theorem namesOnly_checkDefinitions_of_ownsLetter :
    NamesOnly definitionRules.tail (checkDefinitions level lines) := by
  refine (written_checkDefinitions_of level lines (List.Subset.refl _) fun line hline hspec =>
    ?_).namesOnly
  rw [letterIssue?_eq_none (hletters line hline) (hspec ▸ rfl) (hspec ▸ rfl) (by decide)]
  exact writtenIn_nil

variable (hfixed : hasFreeSentinel lines = false)

include hfixed

/-- On such lines, and without a sentinel among them, no check reports under these rules. -/
theorem rule_not_mem_unreachableRules :
    ∀ part ∈ checkParts limit level lines, ∀ issue ∈ part.2, issue.rule ∉ unreachableRules := by
  intro part hpart issue hissue
  cases hhave : haveUnreachableRules part.1 with
  | false =>
    -- most checks have none of the rules to begin with
    exact not_mem_unreachableRules part.1 (mem_partNames hpart) hhave issue.rule
      (namesOnly_checkParts limit level lines part hpart issue hissue)
  | true =>
    -- four checks have one, and do not use it on these lines
    have hfour : part ∈ (checkParts limit level lines).filter (haveUnreachableRules ·.1) :=
      List.mem_filter.mpr ⟨hpart, hhave⟩
    rw [filter_checkParts_unreachable] at hfour
    have hnot : ∀ {names : List String}, NamesOnly names part.2 →
        (∀ name ∈ names, name ∉ unreachableRules) →
        issue.rule ∉ unreachableRules := fun hnames hnone => hnone issue.rule (hnames issue hissue)
    simp only [List.mem_cons, List.not_mem_nil, or_false] at hfour
    rcases hfour with rfl | rfl | rfl | rfl
    · exact hnot (namesOnly_checkColumns_of_ownsLetter hletters) (by decide)
    · exact hnot (namesOnly_checkDefinitions_of_ownsLetter hletters) (by decide)
    · simp [checkFullyFree, hfixed] at hissue
    · have hmisuse : WrittenIn lines ["FREE_AFTER_FIXED"] false Line.raw (checkFreeMisuse lines) :=
        written_checkFreeMisuse_of lines (by decide) fun h => absurd (hfixed ▸ h) Bool.false_ne_true
      exact hnot hmisuse.namesOnly (by decide)

end

end

/-- A finding under `MULTIPLE_STATEMENTS` is on a line that is in no free-form member. -/
theorem not_contains_message_of_mem_scopeIssues {options : CheckOptions}
    (hrules : options.rules = []) {scope : Scope} {lines : List Line}
    (hfixed : hasFreeSentinel lines = false) {issue : Issue}
    (h : issue ∈ scopeIssues options lines scope) (hrule : issue.rule = "MULTIPLE_STATEMENTS") :
    contains issue.message "**FREE source" = false := by
  have hnone : options.rulesIn scope = [] := by cases scope <;> simp [CheckOptions.rulesIn, hrules]
  have hcontent : IsContentIssue options scope lines issue := .inl (by rw [hrule]; decide)
  have hmem := (mem_scopeIssues_content_iff options scope lines).mp ⟨h, hcontent⟩
  obtain ⟨p, -, hline⟩ := (mem_contentIssues_iff options scope hfixed).mp hmem
  rw [lineContent, hnone, List.filterMap_nil, List.append_nil, List.mem_append] at hline
  rcases hline with hstatements | hindicators
  · -- the check of statements tells which of two places it means
    split at hstatements
    · exact not_contains_message_of_mem_multipleStatements hstatements
    · cases hstatements
  · -- the check of indicators has another rule
    split at hindicators
    · have hother := namesOnly_lineIndicators p.2 issue hindicators
      rw [hrule] at hother
      exact absurd hother (by decide)
    · cases hindicators

theorem mem_scopeIssues_without_rules {options : CheckOptions} (hrules : options.rules = [])
    {scope : Scope} {lines : List Line} {issue : Issue}
    (h : issue ∈ scopeIssues options lines scope) :
    issue ∈ scopeIssues { options with rules := [] } lines scope := by
  rwa [← hrules]

/-- **The rules that no report has.**  Each line of a fixed type shows its own letter, in either
case, in column 6.  A member with a sentinel is refused on a sentinel, and the checks of a scope run
on lines without one.  So without rules of the user a report has none of the unreachable rules, nor
one on several statements in a free-form member. -/
theorem unreachable_rules_unreported {options : CheckOptions} (hrules : options.rules = [])
    (scope : Scope) (path : Option String) (source : String) :
    let lines := classify source
    let issues := (check options scope path source).issues
    (∀ line ∈ lines, line.spec.isFixed →
        ∃ letter, charAt? line.raw 5 = some letter ∧
          String.singleton letter.toUpper = line.spec.code) ∧
      (hasFreeSentinel lines → ∃ sentinel ∈ lines, sentinel.spec = .free ∧
        issues = [unsupportedFreeForm sentinel]) ∧
      (hasFreeSentinel lines = false →
        issues = sortIssues (dropDisabled options.disabled (scopeIssues options lines scope))) ∧
      ∀ issue ∈ issues,
        issue.rule ∉ ["H_SPEC_COL6", "F_SPEC_COL6", "D_SPEC_COL6", "P_SPEC_COL6", "C_SPEC_COL6",
            "FREE_FORMAT_CONFUSION", "MIXED_FORMAT", "FREE_POSITION"] ∧
          (issue.rule = "MULTIPLE_STATEMENTS" →
            contains issue.message "**FREE source" = false) := by
  intro lines issues
  have hletters : ∀ line ∈ lines, line.OwnsLetter :=
    fun line hline => ownsLetter_of_mem_classify hline
  refine ⟨hletters, issues_check_of_sentinel options scope path,
    issues_check_of_fixed options scope path, ?_⟩
  intro issue hissue
  cases hsentinel : hasFreeSentinel lines with
  | true =>
    obtain ⟨sentinel, -, -, hissues⟩ := issues_check_of_sentinel options scope path hsentinel
    rw [show issues = _ from hissues, List.mem_singleton] at hissue
    rw [hissue]
    -- the rule on sentinels is none of these
    exact ⟨by simp [unsupportedFreeForm], fun h => absurd h (by simp [unsupportedFreeForm])⟩
  | false =>
    have hscope := ((mem_issues_check_of_fixed options scope path hsentinel).mp hissue).1
    obtain ⟨level, part, hpart, hmem⟩ :=
      exists_part_of_mem_scopeIssues options scope lines
        (mem_scopeIssues_without_rules hrules hscope)
    exact ⟨rule_not_mem_unreachableRules hletters hsentinel part hpart issue hmem,
      not_contains_message_of_mem_scopeIssues hrules hsentinel hscope⟩

/-- A calculation with several statements, at the strictest level. -/
theorem unreachable_rules_unreported_calculation :
    let source := "     C     a; b;"
    let options : CheckOptions := { level := .strict }
    let issues := (check options .all none source).issues
    options.rules = [] ∧
      (∃ issue ∈ issues, issue.rule = "MULTIPLE_STATEMENTS" ∧
        contains issue.message "**FREE source" = false) ∧
      ∀ issue ∈ issues, issue.rule ∉ unreachableRules := by
  intro source options issues
  have hfixed : hasFreeSentinel (classify source) = false := by decide
  have hlisted : ∃ issue ∈ scopeIssues options (classify source) .all,
      issue.rule = "MULTIPLE_STATEMENTS" := by
    decide +kernel
  obtain ⟨issue, hissue, hrule⟩ := hlisted
  have hreported :=
    (mem_issues_check_of_fixed options .all none hfixed).mpr ⟨hissue, List.not_mem_nil⟩
  have hrules : options.rules = [] := rfl
  obtain ⟨-, -, -, hall⟩ := unreachable_rules_unreported hrules .all none source
  exact ⟨hrules, ⟨issue, hreported, hrule, (hall issue hreported).2 hrule⟩, fun other hother =>
    (hall other hother).1⟩

end RpgLint
