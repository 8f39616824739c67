import RpgLint.Proofs.Check.CodeArea
import RpgLint.Proofs.Check.RuleNames

/-!
# Checks that read the comment area

Six checks read a line to its end: whether a control line has keywords, whether a definition without
a name may lack it, the semicolons of a line, its numbered indicators, and the parentheses and
quotes of a statement.  Two sources whose lines agree but for their comment areas have the same
findings under all other rules, and they have the same findings under one of the six exactly when
what its check reads is the same, line by line or statement by statement.

## Main definitions

* `commentAreaRules` — the rules of the six checks.
* `Line.lacksKeywords`, `Line.lacksName`, `Line.surplus?`, `Line.indicators`,
  `StatementGroup.imbalance?`, `StatementGroup.hasOddQuotes` — what the six checks read.
* `CommentAreasAlike` — two lists of lines that read the same to the six checks.
* `kept` — what the findings under some of the rules say.

## Main results

* `kept_allIssues` — the findings of lines that read the same.
-/

namespace RpgLint

/-! ### What the checks read -/

/-- The rules of the six checks that read a line to its end. -/
def commentAreaRules : List String :=
  ["H_SPEC_KEYWORD", "D_SPEC_MISSING_NAME", "MULTIPLE_STATEMENTS", "INDICATOR_USAGE",
    "UNMATCHED_PARENTHESES", "UNMATCHED_QUOTES"]

namespace Line

/-- A control line without keywords anywhere behind column 6. -/
def lacksKeywords (line : Line) : Bool :=
  line.spec == .control && !line.isComment && isBlankText (sliceFrom line.raw 6)

/-- A definition line with a blank name that says something behind it, but nothing that stands
without a name. -/
def lacksName (line : Line) : Bool :=
  line.spec == .definition && !line.isComment && line.continuation == some .blankField &&
    !(isBlankText (sliceFrom line.raw Field.definitionName.stop) || Definition.mayLackName line.raw)

/-- The number of semicolons, when there are several, of a calculation or of a line in a free
block. -/
def surplus? (inFreeBlock : Bool) (line : Line) : Option Nat :=
  if line.directive?.isSome || line.isComment || !(line.spec == .calculation || inFreeBlock) ||
      semicolons line.raw ≤ 1 then none
  else some (semicolons line.raw)

/-- The numbered indicators of a line that is no comment. -/
def indicators (line : Line) : List IndicatorUse :=
  if line.isComment then [] else indicatorUses line.raw

end Line

namespace StatementGroup

/-- The numbers of opening and closing parentheses outside of literals, when they differ. -/
def imbalance? (group : StatementGroup) : Option (Nat × Nat) :=
  let opening := occurrences '(' (stripLiterals group.text)
  let closing := occurrences ')' (stripLiterals group.text)
  if opening = closing then none else some (opening, closing)

/-- The quotes of the statement do not pair up, and its first line does not go on with its
literal. -/
def hasOddQuotes (group : StatementGroup) : Bool :=
  !(endsWith (trimEnd group.head.raw) "-" || endsWith (trimEnd group.head.raw) "+") &&
    occurrences '\'' group.text % 2 != 0

end StatementGroup

/-- The lines, each with the bit that says whether a free block is open before it. -/
def flagged (inFreeBlock : Bool) : List Line → List (Bool × Line)
  | [] => []
  | line :: lines => (inFreeBlock, line) :: flagged (insideFreeAfter inFreeBlock line) lines

/-- Two lists of lines read the same to those of the six checks that run at the level and whose rule
applies. -/
structure CommentAreasAlike (level : Level) (applies : String → Bool) (as bs : List Line) :
    Prop where
  /-- The same control lines lack keywords. -/
  keywords : level.isStrict → applies "H_SPEC_KEYWORD" →
    as.map Line.lacksKeywords = bs.map Line.lacksKeywords
  /-- The same definition lines lack a name. -/
  names : applies "D_SPEC_MISSING_NAME" → as.map Line.lacksName = bs.map Line.lacksName
  /-- The same lines have several statements, and as many. -/
  statements : level.atLeastStandard → applies "MULTIPLE_STATEMENTS" →
    (flagged false as).map (fun p => p.2.surplus? p.1) =
      (flagged false bs).map fun p => p.2.surplus? p.1
  /-- The lines have the same numbered indicators in the same columns. -/
  indicators : level.atLeastStandard → applies "INDICATOR_USAGE" →
    as.map Line.indicators = bs.map Line.indicators
  /-- The same statements have unbalanced parentheses, and as many of each sort. -/
  parentheses : level.atLeastStandard → applies "UNMATCHED_PARENTHESES" →
    (statementGroups as).map (·.imbalance?) = (statementGroups bs).map (·.imbalance?)
  /-- The same statements have unbalanced quotes. -/
  quotes : level.atLeastStandard → applies "UNMATCHED_QUOTES" →
    (statementGroups as).map (·.hasOddQuotes) = (statementGroups bs).map (·.hasOddQuotes)

namespace CommentAreasAlike

variable {level : Level} {applies keep : String → Bool} {as bs : List Line}

/-- With fewer rules there is less to read. -/
theorem mono (h : CommentAreasAlike level applies as bs)
    (hkeep : ∀ rule, keep rule = true → applies rule = true) :
    CommentAreasAlike level keep as bs where
  keywords := fun hstrict hrule => h.keywords hstrict (hkeep _ hrule)
  names := fun hrule => h.names (hkeep _ hrule)
  statements := fun hstandard hrule => h.statements hstandard (hkeep _ hrule)
  indicators := fun hstandard hrule => h.indicators hstandard (hkeep _ hrule)
  parentheses := fun hstandard hrule => h.parentheses hstandard (hkeep _ hrule)
  quotes := fun hstandard hrule => h.quotes hstandard (hkeep _ hrule)

/-- Without the six rules there is nothing to read. -/
theorem of_forall_not (hkeep : ∀ rule ∈ commentAreaRules, keep rule = false) :
    CommentAreasAlike level keep as bs := by
  have hnot : ∀ rule ∈ commentAreaRules, ∀ {P : Prop}, keep rule = true → P := by
    intro rule hrule P h
    rw [hkeep rule hrule] at h
    cases h
  constructor
  · exact fun _ => hnot _ (by decide)
  · exact hnot _ (by decide)
  · exact fun _ => hnot _ (by decide)
  · exact fun _ => hnot _ (by decide)
  · exact fun _ => hnot _ (by decide)
  · exact fun _ => hnot _ (by decide)

end CommentAreasAlike

/-! ### Lists that agree in what a function reads -/

/-- What two readings determine agrees when the readings do. -/
theorem map_eq_of_map_eq {α β γ δ : Type} {f : α → β} {g : α → γ} {k : α → δ}
    (hf : ∀ a b, g a = g b → k a = k b → f a = f b) {as bs : List α}
    (hg : as.map g = bs.map g) (hk : as.map k = bs.map k) : as.map f = bs.map f := by
  induction as generalizing bs with
  | nil =>
    cases bs with
    | nil => rfl
    | cons b bs => cases hg
  | cons a as ih =>
    cases bs with
    | nil => cases hg
    | cons b bs =>
      rw [List.map_cons, List.map_cons, List.cons.injEq] at *
      exact ⟨hf a b hg.1 hk.1, ih hg.2 hk.2⟩

theorem flatMap_eq_of_map_eq {α β γ δ : Type} {f : α → List β} {g : α → γ} {k : α → δ}
    (hf : ∀ a b, g a = g b → k a = k b → f a = f b) {as bs : List α}
    (hg : as.map g = bs.map g) (hk : as.map k = bs.map k) : as.flatMap f = bs.flatMap f := by
  rw [List.flatMap_def, List.flatMap_def, map_eq_of_map_eq hf hg hk]

/-! ### Findings under some of the rules -/

/-- What the findings say, for those under the rules that are kept. -/
def kept (keep : String → Bool) (issues : List Issue) : List Headline :=
  (headlines issues).filter fun headline => keep headline.rule

section

variable {keep : String → Bool}

@[simp] theorem kept_nil : kept keep [] = [] := rfl

@[simp] theorem kept_append (issues others : List Issue) :
    kept keep (issues ++ others) = kept keep issues ++ kept keep others := by
  rw [kept, headlines_append, List.filter_append, kept, kept]

theorem kept_flatMap {α : Type} (f : α → List Issue) (as : List α) :
    kept keep (as.flatMap f) = as.flatMap fun a => kept keep (f a) := by
  rw [kept, headlines_flatMap, List.filter_flatMap]
  rfl

theorem kept_eq_of_headlines {issues others : List Issue}
    (h : headlines issues = headlines others) :
    kept keep issues = kept keep others := by
  rw [kept, h, kept]

/-- Findings under rules that are not kept say nothing. -/
theorem kept_eq_nil {names : List String} {issues : List Issue} (h : NamesOnly names issues)
    (hkeep : ∀ name ∈ names, keep name = false) : kept keep issues = [] := by
  rw [kept, List.filter_eq_nil_iff]
  intro headline hheadline
  obtain ⟨issue, hissue, rfl⟩ := List.mem_map.mp hheadline
  rw [show issue.headline.rule = issue.rule from rfl, hkeep _ (h issue hissue)]
  exact Bool.false_ne_true

/-- Findings under one rule need to say the same only when the rule is kept. -/
theorem kept_eq_of_rule {rule : String} {issues others : List Issue}
    (hissues : NamesOnly [rule] issues) (hothers : NamesOnly [rule] others)
    (h : keep rule → headlines issues = headlines others) :
    kept keep issues = kept keep others := by
  cases hkeep : keep rule with
  | false =>
    have hdropped : ∀ name ∈ [rule], keep name = false := fun name hname =>
      List.mem_singleton.mp hname ▸ hkeep
    rw [kept_eq_nil hissues hdropped, kept_eq_nil hothers hdropped]
  | true => exact kept_eq_of_headlines (h hkeep)

end

/-! ### Lines that agree but for their comment areas -/

section

variable {a b : Line}

/-- What is the same for a line and its cropped form is the same for lines with the same cropped
form. -/
theorem eq_of_cropped_eq {β : Type} {f : Line → β} (hf : ∀ line, f line.cropped = f line)
    (h : a.cropped = b.cropped) : f a = f b := by
  rw [← hf a, h, hf]

theorem number_eq (h : a.cropped = b.cropped) : a.number = b.number :=
  eq_of_cropped_eq Line.number_cropped h

theorem spec_eq (h : a.cropped = b.cropped) : a.spec = b.spec :=
  eq_of_cropped_eq Line.spec_cropped h

theorem isComment_eq (h : a.cropped = b.cropped) : a.isComment = b.isComment :=
  eq_of_cropped_eq Line.isComment_cropped h

theorem continuation_eq (h : a.cropped = b.cropped) : a.continuation = b.continuation :=
  eq_of_cropped_eq Line.continuation_cropped h

theorem continuesName_eq (h : a.cropped = b.cropped) : continuesName a.raw = continuesName b.raw :=
  eq_of_cropped_eq (f := fun line => continuesName line.raw) Line.continuesName_cropped h

variable {keep : String → Bool} {level : Level}

/-- A finding of a single line that keeps to the code area. -/
theorem kept_toList_eq {f : Line → Option Issue}
    (hf : ∀ line, (f line.cropped).map Issue.headline = (f line).map Issue.headline)
    (h : a.cropped = b.cropped) : kept keep (f a).toList = kept keep (f b).toList := by
  apply kept_eq_of_headlines
  rw [headlines_toList, headlines_toList,
    eq_of_cropped_eq (f := fun line => (f line).map Issue.headline) hf h]

/-! ### Keywords of control lines -/

theorem kept_controlKeywordIssue? (hcode : a.cropped = b.cropped)
    (hread : keep "H_SPEC_KEYWORD" → isBlankText (sliceFrom a.raw 6) =
      isBlankText (sliceFrom b.raw 6)) :
    kept keep (controlKeywordIssue? a).toList = kept keep (controlKeywordIssue? b).toList := by
  refine kept_eq_of_rule (written_controlKeywordIssue? a).namesOnly
    (written_controlKeywordIssue? b).namesOnly ?_
  intro hkeep
  unfold controlKeywordIssue?
  rw [hread hkeep, number_eq hcode]
  split <;> rfl

theorem kept_checkLineColumns (hcode : a.cropped = b.cropped)
    (hread : level.isStrict → keep "H_SPEC_KEYWORD" → a.lacksKeywords = b.lacksKeywords) :
    kept keep (checkLineColumns level a) = kept keep (checkLineColumns level b) := by
  have hletter : ∀ letter, kept keep (letterIssue? a letter).toList =
      kept keep (letterIssue? b letter).toList := fun letter =>
    kept_toList_eq (f := fun line => letterIssue? line letter)
      (fun line => letterIssue?_cropped line letter) hcode
  have hcontinuation : a.isContinuation = b.isContinuation := by
    rw [Line.isContinuation, continuation_eq hcode, Line.isContinuation]
  unfold checkLineColumns
  rw [isComment_eq hcode, spec_eq hcode, hcontinuation, continuesName_eq hcode]
  -- the type decides which checks run, and it is the same for both lines
  cases hcomment : b.isComment with
  | true => rfl
  | false =>
    cases hspec : b.spec with
    | control =>
      cases hstrict : level.isStrict with
      | false => simp [hletter]
      | true =>
        -- the only one of these checks that reads on behind column 80
        have hkeyword := kept_controlKeywordIssue? hcode fun hkeep => by
          simpa [Line.lacksKeywords, spec_eq hcode, isComment_eq hcode, hspec, hcomment] using
            hread hstrict hkeep
        simp [hletter, hkeyword]
    | file =>
      have hfileType := @kept_toList_eq a b keep fileTypeIssue? fileTypeIssue?_cropped hcode
      have hdevice := @kept_toList_eq a b keep deviceIssue? deviceIssue?_cropped hcode
      simp only [Bool.false_eq_true, if_false]
      split <;> simp [hletter, hfileType, hdevice]
    | procedure =>
      have hbeginEnd := @kept_toList_eq a b keep beginEndIssue? beginEndIssue?_cropped hcode
      simp only [Bool.false_eq_true, if_false]
      split <;> simp [hletter, hbeginEnd]
    | calculation => simp [hletter]
    | _ => rfl

/-- What is said of a control line that lacks keywords. -/
def keywordHeadlines (line : Line) : List Headline :=
  if line.lacksKeywords then
    [{ line := line.number
       rule := "H_SPEC_KEYWORD"
       severity := .warning
       column := some 7
       message := "Control specification has no keywords" }]
  else []

theorem lacksKeywords_eq_of_headlines (h : keywordHeadlines a = keywordHeadlines b) :
    a.lacksKeywords = b.lacksKeywords := by
  unfold keywordHeadlines at h
  cases ha : a.lacksKeywords <;> cases hb : b.lacksKeywords <;> simp_all

/-- The rule on keywords reports the control lines that lack them. -/
theorem headlines_filter_checkLineColumns (hstrict : level.isStrict) (line : Line) :
    headlines ((checkLineColumns level line).filter (·.rule == "H_SPEC_KEYWORD")) =
      keywordHeadlines line := by
  have hletter : ∀ letter : Char, "H_SPEC_KEYWORD" ∉ [s!"{letter}_SPEC_COL6"] →
      (letterIssue? line letter).toList.filter (·.rule == "H_SPEC_KEYWORD") = [] :=
    fun letter hrule => (written_letterIssue? line letter).namesOnly.filter_eq_nil hrule
  have hkeyword := (written_controlKeywordIssue? line).namesOnly.filter_eq_self
  have hfileType :=
    (written_fileTypeIssue? line).namesOnly.filter_eq_nil (show "H_SPEC_KEYWORD" ∉ _ by decide)
  have hdevice :=
    (written_deviceIssue? line).namesOnly.filter_eq_nil (show "H_SPEC_KEYWORD" ∉ _ by decide)
  have hbeginEnd :=
    (written_beginEndIssue? line).namesOnly.filter_eq_nil (show "H_SPEC_KEYWORD" ∉ _ by decide)
  -- every other finding on the line is under another rule
  unfold checkLineColumns keywordHeadlines Line.lacksKeywords
  cases hcomment : line.isComment with
  | true => simp
  | false =>
    cases hspec : line.spec with
    | control =>
      simp only [List.filter_append, hletter 'H' (by decide), hstrict, hkeyword, if_true,
        List.nil_append, Bool.false_eq_true, if_false]
      unfold controlKeywordIssue?
      cases isBlankText (sliceFrom line.raw 6) <;> rfl
    | file =>
      simp only [List.filter_append, hletter 'F' (by decide), List.nil_append, Bool.false_eq_true,
        if_false]
      split <;> simp [hfileType, hdevice]
    | procedure =>
      simp only [List.filter_append, hletter 'P' (by decide), List.nil_append, Bool.false_eq_true,
        if_false]
      split <;> simp [hbeginEnd]
    | calculation => simp [hletter 'C' (by decide)]
    | _ => simp

/-! ### Names of definition lines -/

theorem checkDefinitions_eq_flatMap (level : Level) (lines : List Line) :
    checkDefinitions level lines =
      lines.flatMap fun line =>
        if line.spec == .definition then checkDefinition level line else [] := by
  unfold checkDefinitions
  induction lines with
  | nil => rfl
  | cons line lines ih =>
    rw [List.flatMap_cons, List.filter_cons, ← ih]
    split <;> simp

theorem kept_missingName? (hcode : a.cropped = b.cropped)
    (hread : keep "D_SPEC_MISSING_NAME" →
      (isBlankText (sliceFrom a.raw Field.definitionName.stop) || Definition.mayLackName a.raw) =
        (isBlankText (sliceFrom b.raw Field.definitionName.stop) || Definition.mayLackName b.raw)) :
    kept keep (Definition.missingName? a).toList =
      kept keep (Definition.missingName? b).toList := by
  refine kept_eq_of_rule (Definition.written_missingName? a).namesOnly
    (Definition.written_missingName? b).namesOnly ?_
  intro hkeep
  unfold Definition.missingName?
  rw [hread hkeep, number_eq hcode]
  split <;> simp

theorem kept_checkDefinition (hcode : a.cropped = b.cropped)
    (hread : keep "D_SPEC_MISSING_NAME" → a.lacksName = b.lacksName) :
    kept keep (if a.spec == .definition then checkDefinition level a else []) =
      kept keep (if b.spec == .definition then checkDefinition level b else []) := by
  have hletter := @kept_toList_eq a b keep (letterIssue? · 'D') (letterIssue?_cropped · 'D') hcode
  have hperiod := @kept_toList_eq a b keep _ Definition.periodBeforeMarker?_cropped hcode
  have hfields : kept keep (Definition.checkFields level a) =
      kept keep (Definition.checkFields level b) :=
    kept_eq_of_headlines
      (eq_of_cropped_eq (f := fun line => headlines (Definition.checkFields level line))
        (Definition.headlines_checkFields_cropped · level) hcode)
  unfold checkDefinition
  rw [spec_eq hcode, isComment_eq hcode, continuation_eq hcode, continuesName_eq hcode]
  cases hspec : b.spec == .definition with
  | false => rfl
  | true =>
    cases hcomment : b.isComment with
    | true => rfl
    | false =>
      cases hcontinuation : b.continuation with
      | none =>
        cases continuesName b.raw <;> cases level.atLeastStandard <;>
          simp [hletter, hperiod, hfields]
      | some continuation =>
        cases continuation with
        | marker => simp [hletter]
        | blankField =>
          -- a blank name: the rest of the line says whether one is missing
          have hname := kept_missingName? hcode fun hkeep => by
            have hlacks := hread hkeep
            rw [Line.lacksName, Line.lacksName, spec_eq hcode, isComment_eq hcode,
              continuation_eq hcode, hspec, hcomment, hcontinuation] at hlacks
            exact Bool.not_inj
              (by simpa only [Bool.not_false, Bool.true_and, beq_self_eq_true] using hlacks)
          simp [hletter, hname]

/-- What is said of a definition line that lacks its name. -/
def nameHeadlines (line : Line) : List Headline :=
  if line.lacksName then
    [{ line := line.number
       rule := "D_SPEC_MISSING_NAME"
       severity := .error
       column := some 7
       message := "The name (columns 7-21) is blank but the definition fields are filled" }]
  else []

theorem lacksName_eq_of_headlines (h : nameHeadlines a = nameHeadlines b) :
    a.lacksName = b.lacksName := by
  unfold nameHeadlines at h
  cases ha : a.lacksName <;> cases hb : b.lacksName <;> simp_all

/-- The rule on missing names reports the definition lines that lack one. -/
theorem headlines_filter_checkDefinition (level : Level) (line : Line) :
    headlines ((if line.spec == .definition then checkDefinition level line else []).filter
      (·.rule == "D_SPEC_MISSING_NAME")) = nameHeadlines line := by
  have hletter := (written_letterIssue? line 'D').namesOnly.filter_eq_nil
    (show "D_SPEC_MISSING_NAME" ∉ _ by decide)
  have hname := (Definition.written_missingName? line).namesOnly.filter_eq_self
  have hperiod := (Definition.written_periodBeforeMarker? line).namesOnly.filter_eq_nil
    (show "D_SPEC_MISSING_NAME" ∉ _ by decide)
  have hfields := (Definition.written_checkFields line level).namesOnly.filter_eq_nil
    (show "D_SPEC_MISSING_NAME" ∉ _ by decide)
  unfold checkDefinition nameHeadlines Line.lacksName
  cases line.spec == .definition with
  | false => simp
  | true =>
    cases line.isComment with
    | true => simp
    | false =>
      cases line.continuation with
      | none =>
        cases continuesName line.raw <;> cases level.atLeastStandard <;>
          simp [List.filter_append, hletter, hperiod, hfields]
      | some continuation =>
        cases continuation with
        | marker => simp [hletter]
        | blankField =>
          -- only here a name can be missing
          simp only [List.filter_append, hletter, hname, List.nil_append, if_true,
            Bool.false_eq_true, if_false]
          unfold Definition.missingName?
          cases isBlankText (sliceFrom line.raw Field.definitionName.stop) ||
            Definition.mayLackName line.raw <;> rfl

/-! ### Indicators -/

/-- The findings on indicators say the same when the indicators are the same. -/
theorem headlines_lineIndicators_iff (hcode : a.cropped = b.cropped) :
    headlines (lineIndicators a) = headlines (lineIndicators b) ↔ a.indicators = b.indicators := by
  have hlist : ∀ line, headlines (lineIndicators line) =
      line.indicators.map fun use => (indicatorIssue line use).headline := by
    intro line
    unfold lineIndicators Line.indicators
    split
    · rfl
    · exact List.map_map
  have hsame : (fun use => (indicatorIssue a use).headline) =
      fun use => (indicatorIssue b use).headline := by
    funext use
    simp [indicatorIssue, number_eq hcode]
  -- a finding tells the column of its indicator, and in its message the text
  have hinjective : Function.Injective fun use => (indicatorIssue b use).headline := by
    rintro ⟨text, column⟩ ⟨otherText, otherColumn⟩ h
    simp only [indicatorIssue, Issue.headline_mk, Headline.mk.injEq, Option.some.injEq,
      true_and] at h
    obtain ⟨rfl, htext⟩ := h
    rw [String.append_left_inj, String.append_right_inj] at htext
    exact congrArg (IndicatorUse.mk · column) htext
  rw [hlist, hlist, hsame]
  exact hinjective.list_map.eq_iff

/-! ### Numbers in messages -/

theorem toList_toString (n : Nat) : (toString n).toList = Nat.toDigits 10 n := by
  rw [show toString n = n.repr from rfl, Nat.toList_repr]

/-- A number is told from a text that goes on with a blank behind it. -/
theorem toDigits_append_blank_inj {n m : Nat} {cs ds : List Char}
    (h : Nat.toDigits 10 n ++ ' ' :: cs = Nat.toDigits 10 m ++ ' ' :: ds) : n = m ∧ cs = ds := by
  -- the digits end at the blank
  have hspan : ∀ k cs, (Nat.toDigits 10 k ++ ' ' :: cs).takeWhile Char.isDigit =
      Nat.toDigits 10 k := by
    intro k cs
    rw [List.takeWhile_append_of_pos fun c hc =>
      Nat.isDigit_of_mem_toDigits (by decide) (by decide) hc]
    simp
  have hdigits := congrArg (List.takeWhile Char.isDigit) h
  rw [hspan, hspan] at hdigits
  -- the same digits, so the same number
  have hvalue := congrArg (fun digits => Nat.ofDigitChars 10 digits 0) hdigits
  simp only [Nat.ofDigitChars_ten_toDigits] at hvalue
  subst hvalue
  exact ⟨rfl, (List.cons.inj (List.append_cancel_left h)).2⟩

/-- The message on several statements tells how many there are. -/
theorem semicolons_eq_of_message {place : String}
    (h : (multipleStatementsIssue a place).message = (multipleStatementsIssue b place).message) :
    semicolons a.raw = semicolons b.raw := by
  have hchars := congrArg String.toList h
  simp only [multipleStatementsIssue, String.toList_append, toList_toString,
    List.append_assoc] at hchars
  exact (toDigits_append_blank_inj hchars).1

/-! ### Statements on one line -/

/-- The findings on statements of one line, in a source without the sentinel. -/
theorem multipleStatements_eq (inFreeBlock : Bool) (line : Line) :
    multipleStatements false inFreeBlock line =
      if (line.surplus? inFreeBlock).isSome then
        (if line.spec == .calculation then [multipleStatementsIssue line "in a calculation"]
        else []) ++
          (if inFreeBlock then [multipleStatementsIssue line "inside /FREE"] else [])
      else [] := by
  unfold multipleStatements Line.surplus?
  cases line.directive?.isSome <;> cases line.isComment <;> cases line.spec == .calculation <;>
    cases inFreeBlock <;> by_cases h : semicolons line.raw ≤ 1 <;> simp [h]

theorem Line.surplus?_eq_some {inFreeBlock : Bool} {line : Line} {count : Nat}
    (h : line.surplus? inFreeBlock = some count) :
    (line.spec == .calculation || inFreeBlock) = true ∧ semicolons line.raw = count := by
  unfold surplus? at h
  split at h
  · cases h
  · next hguard =>
    simp only [Bool.not_eq_true, Bool.or_eq_false_iff, Bool.not_eq_false'] at hguard
    exact ⟨hguard.1.2, Option.some.inj h⟩

/-- The findings on statements of one line say the same when as many are counted. -/
theorem headlines_multipleStatements_iff (inFreeBlock : Bool) (hcode : a.cropped = b.cropped) :
    headlines (multipleStatements false inFreeBlock a) =
        headlines (multipleStatements false inFreeBlock b) ↔
      a.surplus? inFreeBlock = b.surplus? inFreeBlock := by
  rw [multipleStatements_eq, multipleStatements_eq, spec_eq hcode]
  cases ha : a.surplus? inFreeBlock with
  | none =>
    cases hb : b.surplus? inFreeBlock with
    | none => simp
    | some m =>
      obtain ⟨hplace, -⟩ := Line.surplus?_eq_some hb
      cases hspec : b.spec == .calculation <;> cases inFreeBlock <;> simp_all
  | some n =>
    obtain ⟨hplace, hn⟩ := Line.surplus?_eq_some ha
    rw [spec_eq hcode] at hplace
    cases hb : b.surplus? inFreeBlock with
    | none => cases hspec : b.spec == .calculation <;> cases inFreeBlock <;> simp_all
    | some m =>
      obtain ⟨-, hm⟩ := Line.surplus?_eq_some hb
      rw [Option.some.injEq]
      constructor
      · intro h
        rw [← hn, ← hm]
        -- one of the two places is reported on both lines
        cases hspec : b.spec == .calculation with
        | true =>
          rw [hspec] at h
          exact semicolons_eq_of_message (congrArg Headline.message (List.cons.inj h).1)
        | false =>
          rw [hspec] at h hplace
          rw [Bool.false_or] at hplace
          subst hplace
          exact semicolons_eq_of_message (congrArg Headline.message (List.cons.inj h).1)
      · -- as many statements are reported in the same words
        intro h
        have hsemicolons : semicolons a.raw = semicolons b.raw := by rw [hn, hm, h]
        have hissue : ∀ place, (multipleStatementsIssue a place).headline =
            (multipleStatementsIssue b place).headline := by
          intro place
          simp [multipleStatementsIssue, number_eq hcode, hsemicolons]
        cases b.spec == .calculation <;> cases inFreeBlock <;> simp [hissue]

end

/-! ### Statements over several lines -/

section

variable {g h : StatementGroup}

/-- The finding on parentheses tells how many there are of each sort. -/
theorem parenthesesIssue?_eq_map (group : StatementGroup) :
    parenthesesIssue? group = group.imbalance?.map fun counts =>
      { severity := .warning
        category := .syntactic
        line := group.head.number
        rule := "UNMATCHED_PARENTHESES"
        message := s!"Unbalanced parentheses ({counts.1} opening, {counts.2} closing)"
        suggestion := some "Add the missing parenthesis"
        snippet := some group.head.raw } := by
  unfold parenthesesIssue? StatementGroup.imbalance?
  dsimp only
  split <;> rfl

theorem parenthesesIssue?_eq (group : StatementGroup) :
    (parenthesesIssue? group).map Issue.headline = group.imbalance?.map fun counts =>
      { line := group.head.number
        rule := "UNMATCHED_PARENTHESES"
        severity := .warning
        column := none
        message := s!"Unbalanced parentheses ({counts.1} opening, {counts.2} closing)" } := by
  rw [parenthesesIssue?_eq_map, Option.map_map]
  rfl

/-- The findings on parentheses say the same when the numbers are the same. -/
theorem headline_parenthesesIssue?_iff (hcode : g.head.cropped = h.head.cropped) :
    (parenthesesIssue? g).map Issue.headline = (parenthesesIssue? h).map Issue.headline ↔
      g.imbalance? = h.imbalance? := by
  rw [parenthesesIssue?_eq, parenthesesIssue?_eq, number_eq hcode]
  refine (Option.map_injective ?_).eq_iff
  rintro ⟨opening, closing⟩ ⟨otherOpening, otherClosing⟩ hmessage
  -- both numbers are read back from the text, each up to the blank behind it
  have hchars := congrArg (fun headline => headline.message.toList) hmessage
  simp only [String.toList_append, toList_toString, List.append_assoc] at hchars
  obtain ⟨rfl, hrest⟩ := toDigits_append_blank_inj (List.append_cancel_left hchars)
  have hclosing : "opening, ".toList ++ _ = "opening, ".toList ++ _ := hrest
  obtain ⟨rfl, -⟩ := toDigits_append_blank_inj (List.append_cancel_left hclosing)
  rfl

/-- The finding on quotes is the same for all statements that begin on a line. -/
theorem quotesIssue?_eq_ite (group : StatementGroup) :
    quotesIssue? group = if group.hasOddQuotes then
      some
        { severity := .warning
          category := .syntactic
          line := group.head.number
          rule := "UNMATCHED_QUOTES"
          message := "Unbalanced single quotes"
          suggestion := some "Close the string literal"
          snippet := some group.head.raw }
    else none := by
  unfold quotesIssue? StatementGroup.hasOddQuotes
  dsimp only
  generalize (endsWith _ _ || endsWith _ _) = goesOn
  rcases Nat.mod_two_eq_zero_or_one (occurrences '\'' group.text) with heven | hodd
  · cases goesOn <;> simp [heven]
  · cases goesOn <;> simp [hodd]

theorem quotesIssue?_eq (group : StatementGroup) :
    (quotesIssue? group).map Issue.headline = if group.hasOddQuotes then
      some
        { line := group.head.number
          rule := "UNMATCHED_QUOTES"
          severity := .warning
          column := none
          message := "Unbalanced single quotes" }
    else none := by
  rw [quotesIssue?_eq_ite]
  split <;> rfl

/-- The findings on quotes say the same when both pair up or neither does. -/
theorem headline_quotesIssue?_iff (hcode : g.head.cropped = h.head.cropped) :
    (quotesIssue? g).map Issue.headline = (quotesIssue? h).map Issue.headline ↔
      g.hasOddQuotes = h.hasOddQuotes := by
  rw [quotesIssue?_eq, quotesIssue?_eq, number_eq hcode]
  cases g.hasOddQuotes <;> cases h.hasOddQuotes <;> simp

end

/-! ### The checks -/

section

variable {as bs : List Line} (hcode : as.map Line.cropped = bs.map Line.cropped)

include hcode

/-- Statements begin on the same lines. -/
theorem map_head_cropped_eq :
    (statementGroups as).map (·.head.cropped) = (statementGroups bs).map (·.head.cropped) := by
  have hbegins : (Line.beginsStatement ∘ Line.cropped) = Line.beginsStatement := by
    funext line
    simp [Line.beginsStatement]
  -- a statement begins on every line that begins one
  have hheads : ∀ lines : List Line, (statementGroups lines).map (·.head.cropped) =
      (lines.map Line.cropped).filter Line.beginsStatement := by
    intro lines
    rw [List.filter_map, hbegins, ← map_head_statementGroups, List.map_map]
    rfl
  rw [hheads, hheads, hcode]

omit hcode in
theorem map_snd_flagged (inFreeBlock : Bool) (lines : List Line) :
    (flagged inFreeBlock lines).map Prod.snd = lines := by
  induction lines generalizing inFreeBlock with
  | nil => rfl
  | cons line lines ih => rw [flagged, List.map_cons, ih]

omit hcode in
/-- Free blocks are open before the same lines. -/
theorem flagged_cropped {lines : List Line} (hlettered : ∀ line ∈ lines, line.Lettered) :
    ∀ inFreeBlock : Bool, flagged inFreeBlock (lines.map Line.cropped) =
      (flagged inFreeBlock lines).map fun p => (p.1, p.2.cropped) := by
  induction lines with
  | nil => exact fun _ => rfl
  | cons line lines ih =>
    obtain ⟨hline, hrest⟩ := List.forall_mem_cons.mp hlettered
    intro inFreeBlock
    rw [List.map_cons, flagged, flagged, hline.insideFreeAfter_cropped, ih hrest, List.map_cons]

omit hcode in
theorem checkMultipleStatementsFrom_eq (fullyFree : Bool) (lines : List Line) :
    ∀ inFreeBlock : Bool, checkMultipleStatementsFrom fullyFree inFreeBlock lines =
      (flagged inFreeBlock lines).flatMap fun p => multipleStatements fullyFree p.1 p.2 := by
  induction lines with
  | nil => exact fun _ => rfl
  | cons line lines ih =>
    intro inFreeBlock
    rw [checkMultipleStatementsFrom, flagged, List.flatMap_cons, ih]

omit hcode in
/-- The findings on statements, line by line, in a source without the sentinel. -/
theorem checkMultipleStatements_eq {lines : List Line} (hfixed : hasFreeSentinel lines = false) :
    checkMultipleStatements lines = (flagged false lines).flatMap fun p =>
      multipleStatements false p.1 p.2 := by
  rw [checkMultipleStatements, hfixed, checkMultipleStatementsFrom_eq]

variable {level : Level} {keep : String → Bool} (halike : CommentAreasAlike level keep as bs)

section

include halike

theorem kept_checkColumns :
    kept keep (checkColumns level as) = kept keep (checkColumns level bs) := by
  rw [checkColumns, checkColumns, kept_flatMap, kept_flatMap]
  -- the keywords matter only when the check on them runs and its rule is kept
  by_cases hreads : level.isStrict ∧ keep "H_SPEC_KEYWORD"
  · exact flatMap_eq_of_map_eq
      (fun a b hline hread => kept_checkLineColumns hline fun _ _ => hread) hcode
      (halike.keywords hreads.1 hreads.2)
  · exact flatMap_eq_of_map_eq (fun a b hline _ => kept_checkLineColumns hline fun hstrict hkeep =>
      absurd ⟨hstrict, hkeep⟩ hreads) hcode hcode

theorem kept_checkDefinitions :
    kept keep (checkDefinitions level as) = kept keep (checkDefinitions level bs) := by
  rw [checkDefinitions_eq_flatMap, checkDefinitions_eq_flatMap, kept_flatMap, kept_flatMap]
  -- whether a name is missing matters only when the rule is kept
  by_cases hkeep : keep "D_SPEC_MISSING_NAME"
  · exact flatMap_eq_of_map_eq
      (fun a b hline hread => kept_checkDefinition hline fun _ => hread) hcode
      (halike.names hkeep)
  · exact flatMap_eq_of_map_eq
      (fun a b hline _ => kept_checkDefinition hline fun h => absurd h hkeep) hcode
      hcode

theorem kept_checkIndicators (hstandard : level.atLeastStandard) :
    kept keep (checkIndicators as) = kept keep (checkIndicators bs) := by
  refine kept_eq_of_rule (written_checkIndicators as).namesOnly
    (written_checkIndicators bs).namesOnly ?_
  intro hkeep
  rw [checkIndicators, checkIndicators, headlines_flatMap, headlines_flatMap]
  exact flatMap_eq_of_map_eq (fun a b hline => (headlines_lineIndicators_iff hline).mpr) hcode
    (halike.indicators hstandard hkeep)

theorem kept_checkParentheses (hstandard : level.atLeastStandard) :
    kept keep (checkParentheses as) = kept keep (checkParentheses bs) := by
  refine kept_eq_of_rule (written_checkParentheses as).namesOnly
    (written_checkParentheses bs).namesOnly ?_
  intro hkeep
  rw [checkParentheses, checkParentheses, headlines_filterMap, headlines_filterMap,
    List.filterMap_eq_flatMap_toList, List.filterMap_eq_flatMap_toList]
  exact flatMap_eq_of_map_eq (fun g h hhead hread =>
    congrArg Option.toList ((headline_parenthesesIssue?_iff hhead).mpr hread))
    (map_head_cropped_eq hcode) (halike.parentheses hstandard hkeep)

theorem kept_checkQuotes (hstandard : level.atLeastStandard) :
    kept keep (checkQuotes as) = kept keep (checkQuotes bs) := by
  refine kept_eq_of_rule (written_checkQuotes as).namesOnly (written_checkQuotes bs).namesOnly ?_
  intro hkeep
  rw [checkQuotes, checkQuotes, headlines_filterMap, headlines_filterMap,
    List.filterMap_eq_flatMap_toList, List.filterMap_eq_flatMap_toList]
  exact flatMap_eq_of_map_eq (fun g h hhead hread =>
    congrArg Option.toList ((headline_quotesIssue?_iff hhead).mpr hread))
    (map_head_cropped_eq hcode) (halike.quotes hstandard hkeep)

end

variable (has : ∀ line ∈ as, line.Lettered) (hbs : ∀ line ∈ bs, line.Lettered)

include has hbs

/-- The lines with their bits agree but for their comment areas, too. -/
theorem map_flagged_cropped_eq (inFreeBlock : Bool) :
    (flagged inFreeBlock as).map (fun p => (p.1, p.2.cropped)) =
      (flagged inFreeBlock bs).map fun p => (p.1, p.2.cropped) := by
  rw [← flagged_cropped has, ← flagged_cropped hbs, hcode]

include halike

theorem kept_checkMultipleStatements (hfixed : hasFreeSentinel bs = false)
    (hstandard : level.atLeastStandard) :
    kept keep (checkMultipleStatements as) = kept keep (checkMultipleStatements bs) := by
  -- the sentinel is looked for in the code area
  have hfree : hasFreeSentinel as = false := by
    rw [← hasFreeSentinel_cropped, hcode, hasFreeSentinel_cropped, hfixed]
  refine kept_eq_of_rule (written_checkMultipleStatements as).namesOnly
    (written_checkMultipleStatements bs).namesOnly ?_
  intro hkeep
  rw [checkMultipleStatements_eq hfree, checkMultipleStatements_eq hfixed, headlines_flatMap,
    headlines_flatMap]
  refine flatMap_eq_of_map_eq ?_ (map_flagged_cropped_eq hcode has hbs false)
    (halike.statements hstandard hkeep)
  rintro ⟨inFreeBlock, a⟩ ⟨inFreeBlock', b⟩ hline hread
  obtain ⟨rfl, hline⟩ := Prod.mk.inj hline
  exact (headlines_multipleStatements_iff inFreeBlock hline).mpr hread

/-- **Lines that read the same have the same findings**, under the rules that are kept. -/
theorem kept_allIssues {options : CheckOptions} (hrules : options.rules = [])
    (hlevel : options.level = level) (hlength : keep "LINE_LENGTH" = false)
    (hfixed : hasFreeSentinel bs = false) :
    kept keep (allIssues options as) = kept keep (allIssues options bs) := by
  -- a check that keeps to the code area says the same of both
  have hsame : ∀ check : List Line → List Issue,
      (∀ lines, (∀ line ∈ lines, line.Lettered) →
        headlines (check (lines.map Line.cropped)) = headlines (check lines)) →
      kept keep (check as) = kept keep (check bs) := by
    intro check hcheck
    apply kept_eq_of_headlines
    rw [← hcheck as has, hcode, hcheck bs hbs]
  -- a check that does not run at the level says nothing of either
  have hgate : ∀ (gate : Bool) (check : List Line → List Issue),
      (gate = true → kept keep (check as) = kept keep (check bs)) →
      kept keep (if gate then check as else []) = kept keep (if gate then check bs else []) := by
    intro gate check hcheck
    cases gate with
    | false => rfl
    | true => exact hcheck rfl
  -- lengths reach into the comment area, and are not kept
  have hlong : ∀ lines, kept keep (checkLength options.limit lines) = [] := fun lines =>
    kept_eq_nil (written_checkLength options.limit lines).namesOnly (by simpa using hlength)
  rw [allIssues_eq_checkParts as hrules, allIssues_eq_checkParts bs hrules, hlevel]
  simp only [checkParts, List.flatMap_cons, List.flatMap_nil, List.append_nil, kept_append, hlong,
    kept_checkColumns hcode halike, kept_checkDefinitions hcode halike,
    hsame checkOrder fun lines _ => headlines_checkOrder_cropped lines,
    hsame checkContinuations fun lines _ => headlines_checkContinuations_cropped lines,
    hgate _ checkMultipleStatements (kept_checkMultipleStatements hcode halike has hbs hfixed),
    hsame checkFreeDirectives fun lines hlines => headlines_checkFreeDirectives_cropped hlines,
    hgate _ checkFullyFree fun _ =>
      hsame checkFullyFree fun lines _ => headlines_checkFullyFree_cropped lines,
    hsame (checkNames level) fun lines _ => congrArg headlines (checkNames_cropped level lines),
    hsame checkDeprecated fun lines _ => headlines_checkDeprecated_cropped lines,
    hgate _ checkIndicators (kept_checkIndicators hcode halike),
    hgate _ checkJumps fun _ => hsame checkJumps fun lines _ => headlines_checkJumps_cropped lines,
    hgate _ (fun lines => (adviseFreeForm? lines).toList) fun _ =>
      hsame (fun lines => (adviseFreeForm? lines).toList) fun lines _ =>
        congrArg (fun advice => headlines advice.toList) (adviseFreeForm?_cropped lines),
    hsame (fun lines => lines.filterMap fileNameSpacing?) fun lines _ =>
      headlines_fileNameSpacing_cropped lines,
    hsame checkContinuationGaps fun lines hlines => headlines_checkContinuationGaps_cropped hlines,
    hsame checkFreeMisuse fun lines hlines => headlines_checkFreeMisuse_cropped hlines,
    hsame (fun lines => (lateDefinition? lines).toList) fun lines _ => by
      simp only [headlines_toList, headlines_lateDefinition?_cropped],
    hgate _ checkParentheses (kept_checkParentheses hcode halike),
    hgate _ checkQuotes (kept_checkQuotes hcode halike)]

end

end RpgLint
