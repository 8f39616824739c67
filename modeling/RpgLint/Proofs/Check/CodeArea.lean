import Mathlib.Data.List.Basic
import RpgLint.Check.Pass
import RpgLint.Proofs.Line.CodeColumns

/-!
# Checks that keep to the code area

What a finding says of a line is its headline: the line, the rule, the severity, the column and the
message.  Most checks say the same of the lines without their comment areas as of the whole lines.
The checks on orders, continuations, directives and names are such, and so are those on the columns
and fields of a line apart from two: the keywords of a control line and the missing name of a
definition are read to the end of the line.

## Main definitions

* `Headline`, `Issue.headline` — what a finding says.

## Main results

* `headlines_checkOrder_cropped` and the others — the checks that say the same of the cropped lines.
-/

namespace RpgLint

/-- What a finding says of a line, apart from explanations and the text of the line. -/
structure Headline where
  /-- Number of the line. -/
  line : Nat
  /-- Name of the rule. -/
  rule : String
  /-- How grave the finding is. -/
  severity : Severity
  /-- First column concerned. -/
  column : Option Nat
  /-- What is wrong. -/
  message : String
  deriving DecidableEq, Repr

/-- What the finding says. -/
def Issue.headline (issue : Issue) : Headline :=
  { line := issue.line
    rule := issue.rule
    severity := issue.severity
    column := issue.column
    message := issue.message }

@[simp] theorem Issue.headline_mk (severity : Severity) (category : Category) (line : Nat)
    (column endColumn : Option Nat) (message rule : String)
    (description suggestion snippet correction : Option String) :
    (Issue.mk severity category line column endColumn message rule description suggestion snippet
      correction).headline = ⟨line, rule, severity, column, message⟩ := rfl

/-- The column is that of the field. -/
@[simp] theorem Issue.headline_atSpan (span : Span) (issue : Issue) :
    (Issue.atSpan span issue).headline =
      { issue.headline with column := some span.firstColumn } := by
  unfold Issue.atSpan
  split <;> rfl

/-- What the findings say. -/
def headlines (issues : List Issue) : List Headline := issues.map Issue.headline

section

variable (issues others : List Issue)

@[simp] theorem headlines_nil : headlines [] = [] := rfl

@[simp] theorem headlines_cons (issue : Issue) :
    headlines (issue :: issues) = issue.headline :: headlines issues := rfl

@[simp] theorem headlines_append :
    headlines (issues ++ others) = headlines issues ++ headlines others :=
  List.map_append

@[simp] theorem headlines_toList (issue : Option Issue) :
    headlines issue.toList = (issue.map Issue.headline).toList := by
  cases issue <;> rfl

/-- Findings behind a gate. -/
theorem mem_headlines_gate {condition : Prop} [Decidable condition] {said : Headline} :
    said ∈ headlines (if condition then issues else []) ↔ condition ∧ said ∈ headlines issues := by
  by_cases h : condition <;> simp [h]

/-- What the findings under some rules say. -/
theorem headlines_filter (p : String → Bool) :
    headlines (issues.filter (p ·.rule)) = (headlines issues).filter (p ·.rule) := by
  rw [headlines, headlines, List.filter_map]
  rfl

theorem headlines_flatMap {α : Type} (f : α → List Issue) (as : List α) :
    headlines (as.flatMap f) = as.flatMap fun a => headlines (f a) :=
  List.map_flatMap

theorem headlines_filterMap {α : Type} (f : α → Option Issue) (as : List α) :
    headlines (as.filterMap f) = as.filterMap fun a => (f a).map Issue.headline :=
  List.map_filterMap

end

variable {lines : List Line}

/-- A check that reports at most once on a line. -/
theorem headlines_filterMap_cropped {f : Line → Option Issue}
    (h : ∀ line, (f line.cropped).map Issue.headline = (f line).map Issue.headline)
    (lines : List Line) :
    headlines ((lines.map Line.cropped).filterMap f) = headlines (lines.filterMap f) := by
  simp only [headlines_filterMap, List.filterMap_map, Function.comp_def, h]

/-! ### Lines that agree in their first columns -/

section

variable {n : Nat} {line other : Line} (hnumber : line.number = other.number)

include hnumber

/-- Decimal positions are read in their field. -/
theorem Definition.decimalPositions?_of_extract?
    (h : Field.decimalPositions.extract? line.raw = Field.decimalPositions.extract? other.raw) :
    (decimalPositions? line).map Issue.headline = (decimalPositions? other).map Issue.headline := by
  unfold decimalPositions?
  rw [h]
  repeat' split
  all_goals simp [hnumber]

variable (h : AgreeBefore n line.raw other.raw)

include h

theorem letterIssue?_of_agree (hn : 6 ≤ n) (letter : Char) :
    (letterIssue? line letter).map Issue.headline =
      (letterIssue? other letter).map Issue.headline := by
  have hletter : charAt? line.raw Field.specLetter.start =
      charAt? other.raw Field.specLetter.start := h.charAt?_eq hn
  unfold letterIssue?
  rw [hletter]
  repeat' split
  all_goals simp [hnumber]

namespace Definition

variable (hn : 25 ≤ n)

include hn

theorem declarationType?_of_agree :
    (declarationType? line).map Issue.headline = (declarationType? other).map Issue.headline := by
  unfold declarationType?
  rw [h.fits_eq hn, h.extract?_eq hn]
  repeat' split
  all_goals simp [hnumber]

theorem misplacedDeclaration?_of_agree :
    (misplacedDeclaration? line).map Issue.headline =
      (misplacedDeclaration? other).map Issue.headline := by
  have hearly : ∀ {i : Nat}, i < 25 → i < n := fun hi => Nat.lt_of_lt_of_le hi hn
  have hlong : longFormMisplaced line.raw = longFormMisplaced other.raw := by
    rw [longFormMisplaced, h.text_eq (Nat.le_trans (by decide) hn), h.isBlank_eq hn,
      longFormMisplaced]
  have hshort : shortFormMisplaced line.raw = shortFormMisplaced other.raw := by
    unfold shortFormMisplaced
    rw [h.charAt?_eq (hearly (by decide)), h.charAt?_eq (hearly (by decide)),
      h.charAt?_eq (hearly (by decide))]
  unfold misplacedDeclaration?
  rw [hlong, hshort, h.text_eq (Nat.le_trans (by decide) hn)]
  split <;> simp [hnumber]

theorem trailingPeriod?_of_agree :
    (trailingPeriod? line).map Issue.headline = (trailingPeriod? other).map Issue.headline := by
  unfold trailingPeriod?
  rw [h.text_eq (Nat.le_trans (by decide) hn)]
  dsimp only
  split <;> simp [trailingPeriodIssue, hnumber]

theorem namePosition?_of_agree :
    (namePosition? line).map Issue.headline = (namePosition? other).map Issue.headline := by
  unfold namePosition?
  rw [h.fits_eq hn, h.isBlank_eq (Nat.le_trans (by decide) hn),
    h.charAt?_eq (Nat.lt_of_lt_of_le (by decide) hn), h.extract?_eq hn]
  split
  · rfl
  · split
    · rfl
    · dsimp only
      generalize namePositionFault? _ _ = fault
      cases fault <;> simp [hnumber]

end Definition

end

/-! ### Columns -/

section

variable (line : Line)

theorem letterIssue?_cropped (letter : Char) :
    (letterIssue? line.cropped letter).map Issue.headline =
      (letterIssue? line letter).map Issue.headline :=
  letterIssue?_of_agree line.number_cropped line.agreeBefore_cropped (by decide) letter

theorem fileTypeIssue?_cropped :
    (fileTypeIssue? line.cropped).map Issue.headline =
      (fileTypeIssue? line).map Issue.headline := by
  unfold fileTypeIssue?
  rw [line.extract?_cropped (by decide)]
  repeat' split
  all_goals simp

theorem deviceIssue?_cropped :
    (deviceIssue? line.cropped).map Issue.headline = (deviceIssue? line).map Issue.headline := by
  unfold deviceIssue?
  rw [line.extract?_cropped (by decide)]
  repeat' split
  all_goals simp

theorem beginEndIssue?_cropped :
    (beginEndIssue? line.cropped).map Issue.headline =
      (beginEndIssue? line).map Issue.headline := by
  unfold beginEndIssue?
  rw [line.extract?_cropped (by decide)]
  repeat' split
  all_goals simp

theorem fileNameSpacing?_cropped :
    (fileNameSpacing? line.cropped).map Issue.headline =
      (fileNameSpacing? line).map Issue.headline := by
  -- the cut is behind the field, so that it tells whether the line is long enough
  have hlength : (line.cropped.length ≤ Field.fileType.start) ↔
      line.length ≤ Field.fileType.start := by
    have := line.le_charLength_cropped (show Field.fileType.start + 1 ≤ 80 by decide)
    unfold Line.length
    omega
  unfold fileNameSpacing?
  simp only [Line.spec_cropped, Line.isComment_cropped, hlength]
  rw [line.text_cropped (by decide), line.charAt?_cropped (by decide)]
  repeat' split
  all_goals simp

end

/-! ### Definitions -/

namespace Definition

variable (line : Line)

theorem position?_cropped {span : Span} (h : span.stop ≤ 80) :
    position? span line.cropped.raw = position? span line.raw := by
  rw [position?, line.extract?_cropped h, position?]

theorem positionOrder?_cropped :
    (positionOrder? line.cropped).map Issue.headline =
      (positionOrder? line).map Issue.headline := by
  unfold positionOrder?
  rw [line.fits_cropped (by decide), position?_cropped line (by decide),
    position?_cropped line (by decide)]
  repeat' split
  all_goals simp

theorem declarationType?_cropped :
    (declarationType? line.cropped).map Issue.headline =
      (declarationType? line).map Issue.headline :=
  declarationType?_of_agree line.number_cropped line.agreeBefore_cropped (by decide)

theorem misplacedDeclaration?_cropped :
    (misplacedDeclaration? line.cropped).map Issue.headline =
      (misplacedDeclaration? line).map Issue.headline :=
  misplacedDeclaration?_of_agree line.number_cropped line.agreeBefore_cropped (by decide)

theorem trailingPeriod?_cropped :
    (trailingPeriod? line.cropped).map Issue.headline = (trailingPeriod? line).map Issue.headline :=
  trailingPeriod?_of_agree line.number_cropped line.agreeBefore_cropped (by decide)

theorem periodBeforeMarker?_cropped :
    (periodBeforeMarker? line.cropped).map Issue.headline =
      (periodBeforeMarker? line).map Issue.headline := by
  unfold periodBeforeMarker? nameBeforeMarker?
  rw [line.continuesName_cropped, line.codeArea_cropped]
  dsimp only
  repeat' split
  all_goals simp [trailingPeriodIssue]

theorem dataType?_cropped :
    (dataType? line.cropped).map Issue.headline = (dataType? line).map Issue.headline := by
  unfold dataType?
  rw [line.charAt?_cropped (by decide)]
  repeat' split
  all_goals simp

theorem sizeField?_cropped :
    (sizeField? line.cropped).map Issue.headline = (sizeField? line).map Issue.headline := by
  unfold sizeField?
  rw [line.fits_cropped (by decide), line.extract?_cropped (by decide),
    line.charAt?_cropped (by decide)]
  repeat' split
  all_goals simp [pointerIssue, sizeIssue]

theorem decimalPositions?_cropped :
    (decimalPositions? line.cropped).map Issue.headline =
      (decimalPositions? line).map Issue.headline :=
  decimalPositions?_of_extract? line.number_cropped (line.extract?_cropped (by decide))

theorem keywordBleed?_cropped :
    (keywordBleed? line.cropped).map Issue.headline = (keywordBleed? line).map Issue.headline := by
  -- the keywords begin in front of the cut
  have hlength : line.cropped.length ≤ Field.definitionKeywords.start ↔
      line.length ≤ Field.definitionKeywords.start := by
    have := line.le_charLength_cropped (show Field.definitionKeywords.start + 1 ≤ 80 by decide)
    unfold Line.length
    omega
  unfold keywordBleed? strayKeyword?
  rw [line.text_cropped (by decide)]
  simp only [hlength]
  repeat' split
  all_goals simp

theorem fusedSize?_cropped :
    (fusedSize? line.cropped).map Issue.headline = (fusedSize? line).map Issue.headline := by
  unfold fusedSize?
  rw [line.extract?_cropped (by decide)]
  repeat' split
  all_goals simp

theorem namePosition?_cropped :
    (namePosition? line.cropped).map Issue.headline = (namePosition? line).map Issue.headline :=
  namePosition?_of_agree line.number_cropped line.agreeBefore_cropped (by decide)

theorem headlines_checkFields_cropped (level : Level) :
    headlines (checkFields level line.cropped) = headlines (checkFields level line) := by
  unfold checkFields
  cases level.atLeastStandard <;> cases level.isStrict <;>
    simp only [headlines_append, headlines_toList, headlines_nil, if_true, if_false,
      Bool.false_eq_true, positionOrder?_cropped, declarationType?_cropped,
      misplacedDeclaration?_cropped, trailingPeriod?_cropped, dataType?_cropped, sizeField?_cropped,
      decimalPositions?_cropped, keywordBleed?_cropped, fusedSize?_cropped, namePosition?_cropped]

end Definition

/-! ### Names -/

section

variable (line : Line)

theorem nameIn?_cropped {span : Span} (h : span.stop ≤ 80) :
    nameIn? span line.cropped.raw = nameIn? span line.raw := by
  unfold nameIn?
  rw [line.continuesName_cropped, line.codeArea_cropped, line.extract?_cropped h]

theorem hasBeginLetter_cropped : line.cropped.hasBeginLetter = line.hasBeginLetter := by
  unfold Line.hasBeginLetter
  rw [line.field?_cropped (by decide)]

/-- The findings on a name take nothing but the number from the line. -/
theorem checkName_cropped (level : Level) :
    checkVariableName level line.cropped = checkVariableName level line ∧
      checkProcedureName level line.cropped = checkProcedureName level line ∧
      checkFileName line.cropped = checkFileName line := by
  have hissue : nameIssue line.cropped = nameIssue line := by
    unfold nameIssue
    rw [line.number_cropped]
  refine ⟨?_, ?_, ?_⟩
  · unfold checkVariableName
    rw [hissue]
  · unfold checkProcedureName
    rw [hissue]
  · unfold checkFileName
    rw [hissue]

theorem checkLineName_cropped (level : Level) :
    checkLineName level line.cropped = checkLineName level line := by
  obtain ⟨hvariable, hprocedure, hfile⟩ := checkName_cropped line level
  unfold checkLineName
  rw [line.isComment_cropped, line.spec_cropped, nameIn?_cropped line (by decide), hvariable,
    hasBeginLetter_cropped, nameIn?_cropped line (by decide), hprocedure,
    nameIn?_cropped line (by decide), hfile]

/-! ### Operation codes -/

theorem opcode?_cropped : line.cropped.opcode? = line.opcode? := line.field?_cropped (by decide) _

theorem ofLine?_cropped :
    DeprecatedOpcode.ofLine? line.cropped = DeprecatedOpcode.ofLine? line := by
  unfold DeprecatedOpcode.ofLine?
  rw [line.isComment_cropped, opcode?_cropped]

theorem jumpIssue?_cropped :
    (jumpIssue? line.cropped).map Issue.headline = (jumpIssue? line).map Issue.headline := by
  unfold jumpIssue?
  rw [line.isComment_cropped, opcode?_cropped]
  repeat' split
  all_goals simp

end

theorem checkNames_cropped (level : Level) (lines : List Line) :
    checkNames level (lines.map Line.cropped) = checkNames level lines := by
  simp only [checkNames, List.flatMap_map, checkLineName_cropped]

theorem headlines_checkDeprecated_cropped (lines : List Line) :
    headlines (checkDeprecated (lines.map Line.cropped)) = headlines (checkDeprecated lines) := by
  refine headlines_filterMap_cropped (fun line => ?_) lines
  rw [ofLine?_cropped]
  cases DeprecatedOpcode.ofLine? line <;> simp [deprecatedIssue]

theorem headlines_checkJumps_cropped (lines : List Line) :
    headlines (checkJumps (lines.map Line.cropped)) = headlines (checkJumps lines) :=
  headlines_filterMap_cropped jumpIssue?_cropped lines

theorem headlines_fileNameSpacing_cropped (lines : List Line) :
    headlines ((lines.map Line.cropped).filterMap fileNameSpacing?) =
      headlines (lines.filterMap fileNameSpacing?) :=
  headlines_filterMap_cropped fileNameSpacing?_cropped lines

/-! ### Kinds of lines -/

theorem hasFreeSentinel_cropped (lines : List Line) :
    hasFreeSentinel (lines.map Line.cropped) = hasFreeSentinel lines := by
  simp [hasFreeSentinel, List.any_map, Function.comp_def]

theorem adviseFreeForm?_cropped (lines : List Line) :
    adviseFreeForm? (lines.map Line.cropped) = adviseFreeForm? lines := by
  unfold adviseFreeForm?
  rw [hasFreeSentinel_cropped]
  simp [List.any_map, Function.comp_def]

theorem headlines_checkFullyFree_cropped (lines : List Line) :
    headlines (checkFullyFree (lines.map Line.cropped)) = headlines (checkFullyFree lines) := by
  -- the kinds of the lines are all that is asked for
  have hfixed : (lines.map Line.cropped).any (·.isFixedCode) = lines.any (·.isFixedCode) := by
    simp [List.any_map, Function.comp_def]
  have hfirst : ((lines.map Line.cropped).takeWhile (·.spec != .free)).find? (·.isFixedCode) =
      ((lines.takeWhile (·.spec != .free)).find? (·.isFixedCode)).map Line.cropped := by
    simp [List.takeWhile_map, List.find?_map, Function.comp_def]
  unfold checkFullyFree
  rw [hasFreeSentinel_cropped, hfixed, hfirst]
  cases hasFreeSentinel lines with
  | false => rfl
  | true =>
    generalize List.find? _ _ = first
    cases first <;> simp [lateSentinel]

/-! ### The order of specifications -/

theorem boundary?_cropped (line : Line) : line.cropped.boundary? = line.boundary? := by
  have hlength : 24 ≤ line.cropped.length ↔ 24 ≤ line.length :=
    line.le_charLength_cropped (by decide)
  unfold Line.boundary?
  simp only [Line.isCode_cropped, Line.spec_cropped, Line.continuesName_cropped, hlength,
    line.charAt?_cropped (show Field.beginEnd.start < 80 by decide)]

theorem insideProcedureAfter_cropped (inside : Bool) (line : Line) :
    insideProcedureAfter inside line.cropped = insideProcedureAfter inside line := by
  unfold insideProcedureAfter
  rw [boundary?_cropped]

theorem descent?_cropped (state : OrderState) (line : Line) (index : Nat) :
    (state.descent? line.cropped index).map Issue.headline =
      (state.descent? line index).map Issue.headline := by
  unfold OrderState.descent?
  split
  · split <;> simp [orderIssue]
  · rfl

theorem step_cropped (state : OrderState) (line : Line) :
    (state.step line.cropped).1 = (state.step line).1 ∧
      (state.step line.cropped).2.map Issue.headline = (state.step line).2.map Issue.headline := by
  unfold OrderState.step Line.isLocal
  simp only [Line.isCode_cropped, Line.spec_cropped, insideProcedureAfter_cropped]
  repeat' split
  all_goals simp [descent?_cropped]

theorem headlines_checkOrder_cropped (lines : List Line) :
    headlines (checkOrder (lines.map Line.cropped)) = headlines (checkOrder lines) := by
  -- both runs go through the same states
  have hsteps : ∀ state : OrderState,
      headlines ((state.steps (lines.map Line.cropped)).filterMap Prod.snd) =
        headlines ((state.steps lines).filterMap Prod.snd) := by
    induction lines with
    | nil => exact fun _ => rfl
    | cons line lines ih =>
      intro state
      obtain ⟨hstate, hissue⟩ := step_cropped state line
      simp only [headlines_filterMap] at ih ⊢
      rw [List.map_cons, OrderState.steps, OrderState.steps, List.filterMap_cons,
        List.filterMap_cons, hstate, hissue, ih]
  exact hsteps {}

theorem headlines_lateDefinition?_cropped (lines : List Line) :
    (lateDefinition? (lines.map Line.cropped)).map Issue.headline =
      (lateDefinition? lines).map Issue.headline := by
  -- whether a procedure is open, and whatever calculation has been seen
  have hfrom : ∀ (inside : Bool) (calculation : Option Nat),
      (lateDefinitionFrom? inside calculation (lines.map Line.cropped)).map Issue.headline =
        (lateDefinitionFrom? inside calculation lines).map Issue.headline := by
    induction lines with
    | nil => exact fun _ _ => rfl
    | cons line lines ih =>
      intro inside calculation
      simp only [List.map_cons, lateDefinitionFrom?, Line.isCode_cropped, Line.spec_cropped,
        Line.number_cropped, insideProcedureAfter_cropped]
      repeat' split
      all_goals simp [ih, lateDefinitionIssue]
  exact hfrom _ _

/-! ### Continuations -/

/-- What stands in front of a line, without its comment area. -/
def Predecessor.cropped : Predecessor → Predecessor
  | .nothing => .nothing
  | .comments => .comments
  | .line previous => .line previous.cropped

theorem Predecessor.after_cropped (before : Predecessor) (line : Line) :
    before.cropped.after line.cropped = (before.after line).cropped := by
  unfold Predecessor.after Line.isAnyComment
  rw [line.isComment_cropped, line.spec_cropped]
  split
  · cases before <;> rfl
  · rfl

theorem continuationIssue?_cropped (before : Predecessor) (line : Line) :
    (continuationIssue? before.cropped line.cropped).map Issue.headline =
      (continuationIssue? before line).map Issue.headline := by
  unfold continuationIssue?
  rw [line.hasMarker_cropped]
  split
  · rfl
  · cases before with
    | nothing => simp [Predecessor.cropped, continuationIssue]
    | comments => simp [Predecessor.cropped, continuationIssue]
    | line previous =>
      simp only [Predecessor.cropped, Line.spec_cropped]
      split <;> simp [continuationIssue]

theorem headlines_checkContinuations_cropped (lines : List Line) :
    headlines (checkContinuations (lines.map Line.cropped)) =
      headlines (checkContinuations lines) := by
  -- what stands in front of a line is cut, too
  have hfrom : ∀ before : Predecessor,
      headlines (checkContinuationsFrom before.cropped (lines.map Line.cropped)) =
        headlines (checkContinuationsFrom before lines) := by
    induction lines with
    | nil => exact fun _ => rfl
    | cons line lines ih =>
      intro before
      rw [List.map_cons, checkContinuationsFrom, checkContinuationsFrom, headlines_append,
        headlines_append, headlines_toList, headlines_toList, continuationIssue?_cropped,
        before.after_cropped, ih]
  exact hfrom .nothing

/-! ### What is read of the whole line -/

variable (hlettered : ∀ line ∈ lines, line.Lettered)

include hlettered

theorem headlines_checkContinuationGaps_cropped :
    headlines (checkContinuationGaps (lines.map Line.cropped)) =
      headlines (checkContinuationGaps lines) := by
  unfold checkContinuationGaps
  rw [← List.map_tail, List.zip_map, headlines_filterMap, headlines_filterMap, List.filterMap_map]
  refine List.filterMap_congr fun pair hpair => ?_
  -- whether the next line is blank is asked of the whole of it
  have hnext : pair.2.Lettered := hlettered _ (List.mem_of_mem_tail (List.of_mem_zip hpair).2)
  simp only [Function.comp_def, Prod.map, Line.hasMarker_cropped, hnext.isBlank_cropped]
  split <;> simp [continuationGapIssue]

theorem headlines_checkFreeDirectives_cropped :
    headlines (checkFreeDirectives (lines.map Line.cropped)) =
      headlines (checkFreeDirectives lines) := by
  have hfrom : ∀ pending : List Line,
      headlines (checkFreeDirectivesFrom (pending.map Line.cropped) (lines.map Line.cropped)) =
        headlines (checkFreeDirectivesFrom pending lines) := by
    induction lines with
    | nil =>
      intro pending
      -- the directives that are still open are reported
      have hopen : ∀ line : Line, (unmatchedFree line.cropped).headline =
          (unmatchedFree line).headline := by
        simp [unmatchedFree]
      have hend : ∀ pending, checkFreeDirectivesFrom pending [] =
          pending.reverse.map unmatchedFree :=
        fun _ => rfl
      simp only [List.map_nil, hend, headlines, ← List.map_reverse, List.map_map, Function.comp_def,
        hopen]
    | cons line lines ih =>
      obtain ⟨hline, hrest⟩ := List.forall_mem_cons.mp hlettered
      have hpending := ih hrest
      intro pending
      unfold checkFreeDirectivesFrom
      rw [List.map_cons]
      dsimp only
      rw [hline.directive?_cropped]
      split
      · exact hpending (line :: pending)
      · cases pending with
        | nil => simpa [unmatchedEndFree] using hpending []
        | cons first outer => exact hpending outer
      · exact hpending pending
  exact hfrom []

theorem headlines_checkFreeMisuse_cropped :
    headlines (checkFreeMisuse (lines.map Line.cropped)) = headlines (checkFreeMisuse lines) := by
  have hfrom : ∀ fullyFree seenFixed : Bool,
      headlines (checkFreeMisuseFrom fullyFree seenFixed (lines.map Line.cropped)) =
        headlines (checkFreeMisuseFrom fullyFree seenFixed lines) := by
    intro fullyFree
    induction lines with
    | nil => exact fun _ => rfl
    | cons line lines ih =>
      obtain ⟨hline, hrest⟩ := List.forall_mem_cons.mp hlettered
      intro seenFixed
      have hfixed : line.cropped.isFixedCalculation = line.isFixedCalculation := by
        simp [Line.isFixedCalculation]
      rw [List.map_cons, checkFreeMisuseFrom, checkFreeMisuseFrom, headlines_append,
        headlines_append, hline.directive?_cropped, hfixed, ih hrest]
      cases fullyFree <;> cases seenFixed <;> split <;> simp [freeConfusion, freeAfterFixed]
  unfold checkFreeMisuse
  rw [hasFreeSentinel_cropped]
  exact hfrom _ _

end RpgLint
