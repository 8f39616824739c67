import RpgLint.Proofs.Check.CommentArea
import RpgLint.Proofs.Check.Statements

/-!
# Comments between the lines of a statement

The balance of parentheses and quotes is that of whole statements, and a comment is no part of any.
With an asterisk in column 7 it is passed over, so that it can be taken away.  With the asterisk in
column 6 alone it ends the statement that is open in front of it, and then it can be taken away only
if the lines behind, which the statement would go on with, leave its balance as it is.

## Main definitions

* `openStatement?` — the statement that is open behind the lines.
* `StatementGroup.BalancedAlike` — statements with the same findings on their balance.
* `balanceIssues` — the findings on balance.

## Main results

* `statementGroups_append` — further lines are read with the open statement.
* `filterMap_statementGroups_iff` — what one line that begins no statement changes.
* `comment_keeps_balance_iff` — when a comment can be taken away.
-/

namespace RpgLint

/-! ### The open statement -/

/-- The statement that is open behind the lines: the line that it begins on, and the lines behind
that one. -/
def openStatement? : List Line → Option (Line × List Line)
  | [] => none
  | line :: lines =>
    if line.beginsStatement && lines.all (·.keepsOpen line.spec) then some (line, lines)
    else openStatement? lines

namespace StatementGroup

/-- A statement that is ended goes on with no further lines. -/
theorem of_append_of_ended {head : Line} {front : List Line}
    (h : front.all (·.keepsOpen head.spec) = false) (back : List Line) :
    of head (front ++ back) = of head front := by
  rw [of, statementMembers_append, h, if_neg Bool.false_ne_true, List.append_nil, of]

end StatementGroup

/-- No statement begins on lines that keep one open. -/
theorem statementGroups_of_keepsOpen {spec : SpecType} {lines : List Line}
    (h : lines.all (·.keepsOpen spec) = true) (back : List Line) :
    statementGroups (lines ++ back) = statementGroups back ∧ openStatement? lines = none := by
  induction lines with
  | nil => exact ⟨rfl, rfl⟩
  | cons line lines ih =>
    rw [List.all_cons, Bool.and_eq_true] at h
    -- a line that begins a statement would end the open one
    have hbegins : line.beginsStatement = false := by
      by_contra hbegins
      rw [Bool.not_eq_false] at hbegins
      rw [Line.keepsOpen_of_beginsStatement hbegins] at h
      cases h.1
    obtain ⟨hgroups, hnone⟩ := ih h.2
    rw [List.cons_append, statementGroups, openStatement?, hbegins, Bool.false_and,
      if_neg Bool.false_ne_true, if_neg Bool.false_ne_true]
    exact ⟨hgroups, hnone⟩

/-- **Further lines are read with the open statement**, and change nothing in those in front of
it. -/
theorem statementGroups_append (front : List Line) :
    ∃ ended : List StatementGroup, ∀ back, statementGroups (front ++ back) =
      ended ++ ((openStatement? front).map fun p => .of p.1 (p.2 ++ back)).toList ++
        statementGroups back := by
  induction front with
  | nil => exact ⟨[], fun back => rfl⟩
  | cons line front ih =>
    obtain ⟨ended, hended⟩ := ih
    cases hbegins : line.beginsStatement with
    | false =>
      refine ⟨ended, fun back => ?_⟩
      rw [List.cons_append, statementGroups, openStatement?, hbegins, Bool.false_and,
        if_neg Bool.false_ne_true, if_neg Bool.false_ne_true, hended back]
    | true =>
      cases hall : front.all (·.keepsOpen line.spec) with
      | true =>
        -- nothing ends the statement, so that it is the open one, and no other begins behind it
        refine ⟨[], fun back => ?_⟩
        rw [List.cons_append, statementGroups, openStatement?, hbegins, hall, Bool.true_and,
          if_pos rfl, if_pos rfl, (statementGroups_of_keepsOpen hall back).1]
        rfl
      | false =>
        -- the statement has ended, and joins those that no further line reaches
        refine ⟨.of line front :: ended, fun back => ?_⟩
        rw [List.cons_append, statementGroups, openStatement?, hbegins, hall, Bool.true_and,
          if_pos rfl, if_neg Bool.false_ne_true, hended back,
          StatementGroup.of_append_of_ended hall]
        rfl

/-- A line that begins no statement changes the findings on statements by those on the open one. -/
theorem filterMap_statementGroups_iff {α : Type} (f : StatementGroup → Option α) {line : Line}
    (hline : line.beginsStatement = false) (front back : List Line) :
    (statementGroups (front ++ line :: back)).filterMap f =
      (statementGroups (front ++ back)).filterMap f ↔
      ∀ p ∈ openStatement? front,
        f (.of p.1 (p.2 ++ line :: back)) = f (.of p.1 (p.2 ++ back)) := by
  obtain ⟨ended, hended⟩ := statementGroups_append front
  -- the line itself begins nothing, so only the open statement can take it in
  have hskip : statementGroups (line :: back) = statementGroups back := by
    rw [statementGroups, hline, if_neg Bool.false_ne_true]
  rw [hended, hended, hskip, List.filterMap_append, List.filterMap_append, List.filterMap_append,
    List.filterMap_append, List.append_left_inj, List.append_right_inj]
  cases openStatement? front with
  | none => simp
  | some p =>
    simp only [Option.map_some, Option.toList_some, Option.mem_def, Option.some.injEq, forall_eq']
    rw [List.filterMap_cons, List.filterMap_cons, List.filterMap_nil]
    cases f (.of p.1 (p.2 ++ line :: back)) <;> cases f (.of p.1 (p.2 ++ back)) <;> simp

/-! ### The findings on balance -/

/-- The rules on the balance of statements. -/
def isBalanceRule (rule : String) : Bool :=
  ["UNMATCHED_PARENTHESES", "UNMATCHED_QUOTES"].contains rule

/-- The findings on the balance of statements, in a pass over the lines. -/
def balanceIssues (level : Level) (lines : List Line) : List Issue :=
  (mistakePass level lines).filter (isBalanceRule ·.rule)

theorem balanceIssues_eq (level : Level) (lines : List Line) :
    balanceIssues level lines =
      if level.atLeastStandard then checkParentheses lines ++ checkQuotes lines else [] := by
  have hspacing :=
    (written_fileNameSpacing lines).namesOnly.filter_rule_eq_nil (r := isBalanceRule) (by decide)
  have hgaps :=
    (written_checkContinuationGaps lines).namesOnly.filter_rule_eq_nil (r := isBalanceRule)
      (by decide)
  have hmisuse :=
    (written_checkFreeMisuse lines).namesOnly.filter_rule_eq_nil (r := isBalanceRule) (by decide)
  have hlate :=
    (written_lateDefinition? lines).namesOnly.filter_rule_eq_nil (r := isBalanceRule) (by decide)
  have hparentheses :=
    (written_checkParentheses lines).namesOnly.filter_rule_eq_self (r := isBalanceRule) (by decide)
  have hquotes :=
    (written_checkQuotes lines).namesOnly.filter_rule_eq_self (r := isBalanceRule) (by decide)
  -- of the pass only the two checks on balance are under these rules
  unfold balanceIssues mistakePass
  cases level.atLeastStandard <;>
    simp [List.filter_append, hspacing, hgaps, hmisuse, hlate, hparentheses, hquotes]

/-- The two kinds of findings on balance are told apart by their rules. -/
theorem balanceIssues_eq_iff (level : Level) (lines others : List Line) :
    balanceIssues level lines = balanceIssues level others ↔
      (level.atLeastStandard → checkParentheses lines = checkParentheses others ∧
        checkQuotes lines = checkQuotes others) := by
  have hparentheses : ∀ lines, (checkParentheses lines ++ checkQuotes lines).filter
      (·.rule == "UNMATCHED_PARENTHESES") = checkParentheses lines := fun lines => by
    rw [List.filter_append, (written_checkParentheses lines).namesOnly.filter_eq_self,
      (written_checkQuotes lines).namesOnly.filter_eq_nil (by decide), List.append_nil]
  rw [balanceIssues_eq, balanceIssues_eq]
  cases level.atLeastStandard with
  | false => simp
  | true =>
    rw [if_pos rfl, if_pos rfl]
    constructor
    · -- the findings on parentheses are picked, and cancelled
      intro h _
      have hsame := congrArg (List.filter (·.rule == "UNMATCHED_PARENTHESES")) h
      rw [hparentheses, hparentheses] at hsame
      rw [hsame] at h
      exact ⟨hsame, List.append_cancel_left h⟩
    · intro h
      rw [(h rfl).1, (h rfl).2]

namespace StatementGroup

/-- Statements with the same surplus of parentheses, if any, whose quotes pair up in both or in
neither. -/
structure BalancedAlike (g h : StatementGroup) : Prop where
  /-- The same numbers of parentheses, when they differ. -/
  parentheses : g.imbalance? = h.imbalance?
  /-- Unbalanced quotes in both or in neither. -/
  quotes : g.hasOddQuotes = h.hasOddQuotes

variable {g h : StatementGroup} (hhead : g.head = h.head)

include hhead

theorem parenthesesIssue?_eq_iff :
    parenthesesIssue? g = parenthesesIssue? h ↔ g.imbalance? = h.imbalance? := by
  constructor
  · intro hissue
    exact (headline_parenthesesIssue?_iff (congrArg Line.cropped hhead)).mp
      (congrArg (Option.map Issue.headline) hissue)
  · intro hcounts
    rw [parenthesesIssue?_eq_map, parenthesesIssue?_eq_map, hcounts, hhead]

theorem quotesIssue?_eq_iff :
    quotesIssue? g = quotesIssue? h ↔ g.hasOddQuotes = h.hasOddQuotes := by
  rw [quotesIssue?_eq_ite, quotesIssue?_eq_ite, hhead]
  cases g.hasOddQuotes <;> cases h.hasOddQuotes <;> simp

end StatementGroup

/-- What a line that begins no statement changes in the findings on balance. -/
theorem balanceIssues_cons_eq_iff (level : Level) {line : Line}
    (hline : line.beginsStatement = false) (front back : List Line) :
    balanceIssues level (front ++ line :: back) = balanceIssues level (front ++ back) ↔
      (level.atLeastStandard → ∀ p ∈ openStatement? front,
        (StatementGroup.of p.1 (p.2 ++ line :: back)).BalancedAlike (.of p.1 (p.2 ++ back))) := by
  rw [balanceIssues_eq_iff]
  refine imp_congr_right fun _ => ?_
  rw [checkParentheses, checkParentheses, checkQuotes, checkQuotes,
    filterMap_statementGroups_iff _ hline, filterMap_statementGroups_iff _ hline, ← forall₂_and]
  refine forall₂_congr fun p _ => ?_
  have hhead : (StatementGroup.of p.1 (p.2 ++ line :: back)).head =
      (StatementGroup.of p.1 (p.2 ++ back)).head := rfl
  rw [StatementGroup.parenthesesIssue?_eq_iff hhead, StatementGroup.quotesIssue?_eq_iff hhead]
  exact ⟨fun h => ⟨h.1, h.2⟩, fun h => ⟨h.parentheses, h.quotes⟩⟩

/-! ### Comments -/

section

variable {line : Line}

theorem Line.beginsStatement_of_isAnyComment (h : line.isAnyComment = true) :
    line.beginsStatement = false := by
  rw [isAnyComment, Bool.or_eq_true, beq_iff_eq] at h
  rcases h with hcomment | hspec
  · simp [beginsStatement, isCode, hcomment]
  · simp [beginsStatement, isCode, hspec]

/-- No comment of either kind goes on with a statement. -/
theorem Line.continuesStatement_of_isAnyComment {number : Nat} {raw : String}
    (h : (classify number raw).isAnyComment = true) :
    (classify number raw).continuesStatement = false := by
  rw [isAnyComment, Bool.or_eq_true, beq_iff_eq] at h
  rcases h with hcomment | hspec
  · exact continuesStatement_of_isComment hcomment
  · rw [spec_classify] at hspec
    rw [continuesStatement, continuation_classify, hspec]
    rfl

variable (hcontinues : line.continuesStatement = false) (head : Line) (front back : List Line)

include hcontinues

/-- A comment with an asterisk in column 7 is passed over. -/
theorem StatementGroup.of_append_comment (hcomment : line.isComment = true) :
    of head (front ++ line :: back) = of head (front ++ back) := by
  have hskip : statementMembers head.spec (line :: back) = statementMembers head.spec back := by
    rw [statementMembers, Line.continuesType, hcontinues, Bool.false_and, if_neg Bool.false_ne_true,
      if_pos hcomment]
  rw [of, of, statementMembers_append, statementMembers_append, hskip]

/-- Any other line that does not go on with the statement ends it. -/
theorem StatementGroup.of_append_end (hcomment : line.isComment = false) :
    of head (front ++ line :: back) = of head front := by
  have hend : statementMembers head.spec (line :: back) = [] := by
    rw [statementMembers, Line.continuesType, hcontinues, hcomment, Bool.false_and,
      if_neg Bool.false_ne_true, if_neg Bool.false_ne_true]
  rw [of, of, statementMembers_append, hend, ite_self, List.append_nil]

end

/-- **When a comment can be taken away.**  With an asterisk in column 7 it always can, with the same
findings on the balance of statements.  With the asterisk in column 6 alone, it can exactly when the
statement that is open in front of it, if there is one, is balanced alike with the lines behind that
go on with it and without them. -/
theorem comment_keeps_balance_iff (level : Level) (front back : List Line) (number : Nat)
    (raw : String) (hcomment : (Line.classify number raw).isAnyComment = true) :
    let line := Line.classify number raw
    balanceIssues level (front ++ line :: back) = balanceIssues level (front ++ back) ↔
      (level.atLeastStandard → line.isComment = false → ∀ p ∈ openStatement? front,
        (StatementGroup.of p.1 p.2).BalancedAlike (.of p.1 (p.2 ++ back))) := by
  intro line
  have hcontinues : line.continuesStatement = false :=
    Line.continuesStatement_of_isAnyComment hcomment
  have hbegins : line.beginsStatement = false := Line.beginsStatement_of_isAnyComment hcomment
  clear_value line
  rw [balanceIssues_cons_eq_iff level hbegins]
  refine imp_congr_right fun _ => ?_
  cases hcolumn : line.isComment with
  | true =>
    -- an asterisk in column 7: the statement goes on over the line
    refine iff_of_true (fun p _ => ?_) nofun
    rw [StatementGroup.of_append_comment hcontinues _ _ _ hcolumn]
    exact ⟨rfl, rfl⟩
  | false =>
    -- an asterisk in column 6 alone: the statement ends at the line
    rw [forall_prop_of_true rfl]
    refine forall₂_congr fun p _ => ?_
    rw [StatementGroup.of_append_end hcontinues _ _ _ hcolumn]

/-- A comment in column 6 inside of a definition that is balanced line by line. -/
theorem comment_keeps_balance_array :
    let front := [Line.classify 1 "     Dtotals           S             10A"]
    let remark := Line.classify 2 "     * per region, 'net' (of tax"
    let back := [Line.classify 3 "     D                                     DIM(5)"]
    remark.isAnyComment = true ∧ remark.isComment = false ∧ (openStatement? front).isSome = true ∧
      balanceIssues .standard (front ++ remark :: back) =
        balanceIssues .standard (front ++ back) := by
  intro front remark back
  have hcomment : remark.isAnyComment = true := by decide
  refine ⟨hcomment, by decide, by decide, ?_⟩
  refine (comment_keeps_balance_iff .standard front back 2 _ hcomment).mpr fun _ _ p hp => ?_
  obtain rfl : (Line.classify 1 "     Dtotals           S             10A", []) = p :=
    Option.some.inj ((by decide : openStatement? front = some _).symm.trans hp)
  exact ⟨by decide +kernel, by decide +kernel⟩

/-- A comment in column 6 keeps a parenthesis from being closed. -/
theorem remark_ends_statement :
    ¬∀ (level : Level) (front back : List Line) (number : Nat) (raw : String),
      (Line.classify number raw).isAnyComment = true →
        balanceIssues level (front ++ Line.classify number raw :: back) =
          balanceIssues level (front ++ back) := by
  intro h
  have hremark : (Line.classify 2 "     * five rows").isAnyComment = true := by decide
  have hsame := h .standard [Line.classify 1 "     Dlist             S             10A  DIM(100:"]
    [Line.classify 3 "     D                                      5)"] 2 _ hremark
  have hopen : openStatement?
      [Line.classify 1 "     Dlist             S             10A  DIM(100:"] =
      some (Line.classify 1 "     Dlist             S             10A  DIM(100:", []) := by decide
  -- the parenthesis is closed only without the remark
  have halike :=
    (balanceIssues_cons_eq_iff .standard (Line.beginsStatement_of_isAnyComment hremark) _ _).mp
      hsame rfl _ hopen
  exact absurd halike.parentheses (by decide +kernel)

end RpgLint
