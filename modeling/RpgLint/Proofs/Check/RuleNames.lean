import RpgLint.Proofs.Check.Findings

/-!
# The rules that a check reports

Every check reports under a few rules of its own, and no rule belongs to two checks.  So the
findings of a check can be picked out of those of a pass by the names of their rules; and those of
the check of names by their category.

## Main definitions

* `NamesOnly` — findings under the given rules.
* `partNames` — the rules of the checks, check by check.

## Main results

* `NamesOnly.filter_rule_eq_nil`, `NamesOnly.filter_rule_eq_self` — picking findings by their rule.
* `filter_mistakePass_lateDefinition` — the finding on a late definition in its pass.
* `namesOnly_checkParts` — the rules of each check.
* `naming_eq_of_mem_checkParts` — the check that reports on names.
* `allIssues_eq_checkParts` — a full check lists the findings check by check.
-/

namespace RpgLint

/-- Every one of the findings names one of the rules. -/
def NamesOnly (names : List String) (issues : List Issue) : Prop :=
  ∀ issue ∈ issues, issue.rule ∈ names

theorem WrittenIn.namesOnly {lines : List Line} {names : List String} {naming : Bool}
    {shown : Line → String} {issues : List Issue} (h : WrittenIn lines names naming shown issues) :
    NamesOnly names issues := by
  intro issue hissue
  obtain ⟨line, -, hwritten⟩ := h issue hissue
  exact hwritten.rule_mem

namespace NamesOnly

variable {names : List String} {issues : List Issue} {r : String → Bool}

theorem gate (h : NamesOnly names issues) (condition : Prop) [Decidable condition] :
    NamesOnly names (if condition then issues else []) := by
  split
  · exact h
  · exact List.forall_mem_nil _

theorem append {more : List Issue} (h : NamesOnly names issues) (hmore : NamesOnly names more) :
    NamesOnly names (issues ++ more) :=
  List.forall_mem_append.mpr ⟨h, hmore⟩

/-- Findings whose rules are not picked. -/
theorem filter_rule_eq_nil (h : NamesOnly names issues) (hr : ∀ name ∈ names, r name = false) :
    issues.filter (r ·.rule) = [] := by
  rw [List.filter_eq_nil_iff]
  intro issue hissue
  rw [hr issue.rule (h issue hissue)]
  exact Bool.false_ne_true

/-- Findings whose rules all are. -/
theorem filter_rule_eq_self (h : NamesOnly names issues) (hr : ∀ name ∈ names, r name = true) :
    issues.filter (r ·.rule) = issues := by
  rw [List.filter_eq_self]
  exact fun issue hissue => hr issue.rule (h issue hissue)

/-- No finding is under another rule. -/
theorem filter_eq_nil (h : NamesOnly names issues) {rule : String} (hrule : rule ∉ names) :
    issues.filter (·.rule == rule) = [] :=
  h.filter_rule_eq_nil (r := (· == rule)) fun _ hname =>
    beq_eq_false_iff_ne.mpr (ne_of_mem_of_not_mem hname hrule)

/-- All findings are under the one rule. -/
theorem filter_eq_self {rule : String} (h : NamesOnly [rule] issues) :
    issues.filter (·.rule == rule) = issues :=
  h.filter_rule_eq_self (r := (· == rule)) fun _ hname =>
    beq_iff_eq.mpr (List.mem_singleton.mp hname)

end NamesOnly

/-- The finding on a definition after a calculation is picked out of its pass by its rule. -/
theorem filter_mistakePass_lateDefinition (level : Level) (lines : List Line) :
    (mistakePass level lines).filter (·.rule == "D_AFTER_C") = (lateDefinition? lines).toList := by
  have hspacing :=
    (written_fileNameSpacing lines).namesOnly.filter_eq_nil (show "D_AFTER_C" ∉ _ by decide)
  have hgaps :=
    (written_checkContinuationGaps lines).namesOnly.filter_eq_nil (show "D_AFTER_C" ∉ _ by decide)
  have hmisuse :=
    (written_checkFreeMisuse lines).namesOnly.filter_eq_nil (show "D_AFTER_C" ∉ _ by decide)
  have hlate := (written_lateDefinition? lines).namesOnly.filter_eq_self
  have hparentheses :=
    (written_checkParentheses lines).namesOnly.filter_eq_nil (show "D_AFTER_C" ∉ _ by decide)
  have hquotes :=
    (written_checkQuotes lines).namesOnly.filter_eq_nil (show "D_AFTER_C" ∉ _ by decide)
  -- no other check of the pass has the rule
  unfold mistakePass
  cases level.atLeastStandard <;>
    simp [List.filter_append, hspacing, hgaps, hmisuse, hlate, hparentheses, hquotes]

/-! ### All checks -/

/-- The rules of the checks, check by check. -/
def partNames : List (List String) := (checkParts {} .standard []).map Prod.fst

variable (limit : LengthLimit) (level : Level) (lines : List Line)

/-- No check has other rules because of the level or the lines. -/
theorem map_fst_checkParts : (checkParts limit level lines).map Prod.fst = partNames := by
  simp only [partNames, checkParts, List.map_cons, List.map_nil]

variable {limit level lines} in
theorem mem_partNames {part : List String × List Issue}
    (hpart : part ∈ checkParts limit level lines) :
    part.1 ∈ partNames := by
  rw [← map_fst_checkParts limit level lines]
  exact List.mem_map_of_mem hpart

theorem namesOnly_checkParts :
    ∀ part ∈ checkParts limit level lines, NamesOnly part.1 part.2 := by
  intro part hpart
  have hfirst : (Line.classify 1 "").number = 1 := rfl
  exact (written_checkParts hfirst limit level lines part hpart).namesOnly

/-- Findings are picked by their rule, when the rules of a check are all picked or none of them
is. -/
theorem rule_eq_of_mem_checkParts {r : String → Bool} {q : List String → Bool}
    (hr : ∀ names ∈ partNames, ∀ name ∈ names, r name = q names) :
    ∀ part ∈ checkParts limit level lines, ∀ issue ∈ part.2, r issue.rule = q part.1 := by
  intro part hpart issue hissue
  exact hr part.1 (mem_partNames hpart) issue.rule
    (namesOnly_checkParts limit level lines part hpart issue hissue)

/-- **A finding of a full check is about a name exactly when it comes from the check of names.** -/
theorem naming_eq_of_mem_checkParts :
    ∀ part ∈ checkParts limit level lines, ∀ issue ∈ part.2,
      (issue.category == .naming) = (part.1 == nameRules) := by
  intro part hpart issue hissue
  have hfirst : (Line.classify 1 "").number = 1 := rfl
  obtain ⟨line, -, hwritten⟩ := written_checkParts hfirst limit level lines part hpart issue hissue
  exact hwritten.naming_eq

/-- A full check without rules of the user lists the findings check by check. -/
theorem allIssues_eq_checkParts {options : CheckOptions} (hrules : options.rules = []) :
    allIssues options lines =
      (checkParts options.limit options.level lines).flatMap Prod.snd := by
  unfold allIssues layoutPass syntaxPass namePass practicePass mistakePass checkParts
  rw [hrules]
  cases options.level.atLeastStandard <;> simp [checkRules]

/-- The findings under a rule are those of the checks that have the rule. -/
theorem filter_allIssues {options : CheckOptions} (hrules : options.rules = []) (rule : String) :
    (allIssues options lines).filter (·.rule == rule) =
      ((checkParts options.limit options.level lines).filter (rule ∈ ·.1)).flatMap
        fun part => part.2.filter (·.rule == rule) := by
  rw [allIssues_eq_checkParts lines hrules, List.filter_flatMap]
  have hparts := namesOnly_checkParts options.limit options.level lines
  generalize checkParts options.limit options.level lines = parts at hparts
  induction parts with
  | nil => rfl
  | cons part parts ih =>
    obtain ⟨hpart, hrest⟩ := List.forall_mem_cons.mp hparts
    rw [List.flatMap_cons, List.filter_cons, ih hrest]
    by_cases hmem : rule ∈ part.1
    · simp [hmem]
    · simp [hmem, hpart.filter_eq_nil hmem]

end RpgLint
