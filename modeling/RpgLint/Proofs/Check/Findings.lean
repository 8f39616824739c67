import Mathlib.Data.List.Nodup
import RpgLint.Proofs.Check.Order
import RpgLint.Report.Check

/-!
# What the checks write

Each check writes its findings on lines that it was given: a finding has the number of a line and
shows the text of that line, and its columns are counted from one and in order.  The findings of a
check are under a few rules of its own, and either all of them are about names or none is.

## Main definitions

* `Issue.PointsAt` — a finding at a line.
* `Issue.WrittenOn`, `WrittenIn` — findings at lines, under the rules of a check.
* `columnRules`, `definitionRules`, `nameRules` — the rules of the larger checks.
* `checkParts` — the checks of a full check, each with its rules.

## Main results

* `filter_line_flatMap` — findings line by line, picked by the line.
* `written_checkOrder` and the others — what each check writes.
* `written_checkParts` — the same, over the table of all checks.
* `pointsAt_of_mem_checkRules` — what the rules of the user write.
-/

namespace RpgLint

/-- A finding points at a line and shows a text. -/
structure Issue.PointsAt (line : Line) (text : String) (issue : Issue) : Prop where
  /-- It is on the line. -/
  line_eq : issue.line = line.number
  /-- Its columns are counted from one. -/
  column_pos : ∀ column ∈ issue.column, 1 ≤ column
  /-- A last column comes with a first one, and not in front of it. -/
  columns_le : ∀ last ∈ issue.endColumn, ∃ column ∈ issue.column, column ≤ last
  /-- It shows the text, if it shows any. -/
  snippet_eq : ∀ snippet ∈ issue.snippet, snippet = text

/-- A finding as a check writes it on a line. -/
structure Issue.WrittenOn (line : Line) (names : List String) (naming : Bool) (text : String)
    (issue : Issue) : Prop extends issue.PointsAt line text where
  /-- It is under one of the rules of the check. -/
  rule_mem : issue.rule ∈ names
  /-- It is about a name, if the findings of the check are. -/
  naming_eq : (issue.category == .naming) = naming

/-- Each of the findings is written on one of the lines, and shows what `shown` says of the line. -/
def WrittenIn (lines : List Line) (names : List String) (naming : Bool) (shown : Line → String)
    (issues : List Issue) : Prop :=
  ∀ issue ∈ issues, ∃ line ∈ lines, issue.WrittenOn line names naming (shown line)

section

variable {line : Line} {lines others : List Line} {names more : List String} {naming : Bool}
  {text : String} {shown : Line → String} {issue : Issue} {issues rest : List Issue}

theorem Issue.writtenOn_iff : issue.WrittenOn line names naming text ↔
    issue.line = line.number ∧ (∀ column ∈ issue.column, 1 ≤ column) ∧
      (∀ last ∈ issue.endColumn, ∃ column ∈ issue.column, column ≤ last) ∧
      (∀ snippet ∈ issue.snippet, snippet = text) ∧ issue.rule ∈ names ∧
      (issue.category == .naming) = naming := by
  constructor
  · intro h
    exact ⟨h.line_eq, h.column_pos, h.columns_le, h.snippet_eq, h.rule_mem, h.naming_eq⟩
  · rintro ⟨hline, hcolumn, hlast, hsnippet, hrule, hnaming⟩
    exact ⟨⟨hline, hcolumn, hlast, hsnippet⟩, hrule, hnaming⟩

theorem Issue.rule_atSpan (span : Span) (issue : Issue) :
    (issue.atSpan span).rule = issue.rule := by
  unfold Issue.atSpan
  split <;> rfl

/-- A finding that is pointed at a field. -/
theorem Issue.writtenOn_atSpan {span : Span} (hspan : span.start < span.stop)
    (hlast : issue.endColumn = none) :
    (issue.atSpan span).WrittenOn line names naming text ↔
      issue.line = line.number ∧ (∀ snippet ∈ issue.snippet, snippet = text) ∧ issue.rule ∈ names ∧
        (issue.category == .naming) = naming := by
  have hfirst : 1 ≤ span.firstColumn := Nat.le_add_left 1 span.start
  have hcolumns : span.firstColumn ≤ span.lastColumn := hspan
  rw [writtenOn_iff, atSpan]
  split <;> simp [hlast, hfirst, hcolumns]

@[simp] theorem writtenIn_nil : WrittenIn lines names naming shown [] := List.forall_mem_nil _

@[simp] theorem writtenIn_cons : WrittenIn lines names naming shown (issue :: issues) ↔
    (∃ line ∈ lines, issue.WrittenOn line names naming (shown line)) ∧
      WrittenIn lines names naming shown issues :=
  List.forall_mem_cons

@[simp] theorem writtenIn_append : WrittenIn lines names naming shown (issues ++ rest) ↔
    WrittenIn lines names naming shown issues ∧ WrittenIn lines names naming shown rest :=
  List.forall_mem_append

/-- Findings behind a gate. -/
@[simp] theorem writtenIn_gate {condition : Prop} [Decidable condition] :
    WrittenIn lines names naming shown (if condition then issues else []) ↔
      condition → WrittenIn lines names naming shown issues := by
  by_cases h : condition <;> simp [h]

/-- Findings that may be left out. -/
@[simp] theorem writtenIn_unless {condition : Prop} [Decidable condition] :
    WrittenIn lines names naming shown (if condition then [] else issues) ↔
      ¬condition → WrittenIn lines names naming shown issues := by
  by_cases h : condition <;> simp [h]

namespace WrittenIn

theorem mono (h : WrittenIn lines names naming shown issues) (hlines : lines ⊆ others)
    (hnames : names ⊆ more) : WrittenIn others more naming shown issues := by
  intro issue hissue
  obtain ⟨line, hline, hwritten⟩ := h issue hissue
  exact ⟨line, hlines hline, hwritten.toPointsAt, hnames hwritten.rule_mem, hwritten.naming_eq⟩

theorem flatMap {α : Type} {f : α → List Issue} {as : List α}
    (h : ∀ a ∈ as, WrittenIn lines names naming shown (f a)) :
    WrittenIn lines names naming shown (as.flatMap f) :=
  List.forall_mem_flatMap.mpr h

theorem filterMap {α : Type} {f : α → Option Issue} {as : List α}
    (h : ∀ a ∈ as, WrittenIn lines names naming shown (f a).toList) :
    WrittenIn lines names naming shown (as.filterMap f) :=
  List.forall_mem_filterMap.mpr fun a ha issue hissue => h a ha issue (Option.mem_toList.mpr hissue)

/-- Findings written on one line have its number. -/
theorem line_eq (h : WrittenIn [line] names naming shown issues) :
    ∀ issue ∈ issues, issue.line = line.number := by
  intro issue hissue
  obtain ⟨other, hother, hwritten⟩ := h issue hissue
  rw [hwritten.line_eq, List.mem_singleton.mp hother]

end WrittenIn

end

/-- Findings line by line, picked by the number of a line, are those on the line. -/
theorem filter_line_flatMap {f : Line → List Issue}
    (hf : ∀ line, ∀ issue ∈ f line, issue.line = line.number) {lines : List Line}
    (hnumbers : (lines.map Line.number).Nodup) {line : Line} (hline : line ∈ lines) :
    (lines.flatMap f).filter (·.line == line.number) = f line := by
  obtain ⟨front, back, rfl⟩ := List.append_of_mem hline
  rw [List.map_append, List.map_cons, List.nodup_middle, List.nodup_cons,
    ← List.map_append] at hnumbers
  -- no other line has the number, so nothing else is picked
  have hothers : ∀ others : List Line, others ⊆ front ++ back →
      (others.flatMap f).filter (·.line == line.number) = [] := by
    intro others hsub
    rw [List.filter_eq_nil_iff]
    intro issue hissue heq
    obtain ⟨other, hother, hfound⟩ := List.mem_flatMap.mp hissue
    have hsame : other.number = line.number :=
      (hf other issue hfound).symm.trans (beq_iff_eq.mp heq)
    exact hnumbers.1 (List.mem_map.mpr ⟨other, hsub hother, hsame⟩)
  have hown : (f line).filter (·.line == line.number) = f line :=
    List.filter_eq_self.mpr fun issue hissue => beq_iff_eq.mpr (hf line issue hissue)
  rw [List.flatMap_append, List.flatMap_cons, List.filter_append, List.filter_append, hown,
    hothers front (List.subset_append_left front back),
    hothers back (List.subset_append_right front back), List.nil_append, List.append_nil]

/-- The line, if it is code. -/
theorem filter_isCode_singleton {line : Line} (h : line.isCode) :
    [line].filter Line.isCode = [line] :=
  List.filter_eq_self.mpr fun _ hmem => List.mem_singleton.mp hmem ▸ h

/-- What is written on a line of code is written on one of the lines of code. -/
theorem filter_singleton_subset {line : Line} {lines : List Line} (p : Line → Bool)
    (h : line ∈ lines) :
    [line].filter p ⊆ lines.filter p :=
  List.filter_subset p fun _ hmem => List.mem_singleton.mp hmem ▸ h

/-! ### Layout -/

/-- The rules on the columns of control, file, procedure and calculation lines; the first four are
on the letter. -/
def columnRules : List String :=
  ["H_SPEC_COL6", "F_SPEC_COL6", "P_SPEC_COL6", "C_SPEC_COL6", "H_SPEC_KEYWORD", "F_SPEC_FILE_TYPE",
    "F_SPEC_DEVICE", "P_SPEC_BEGIN_END"]

/-- The rules on the fields of a line that begins a definition. -/
def fieldRules : List String :=
  ["D_SPEC_POSITION_ERROR", "D_SPEC_DECL_TYPE", "D_SPEC_DECL_TYPE_MISPLACED",
    "D_SPEC_TRAILING_PERIOD", "D_SPEC_DATATYPE", "D_SPEC_POINTER_POSITION", "D_SPEC_SIZE_FIELD",
    "D_SPEC_DECIMAL", "D_SPEC_COLUMN_SHIFT", "D_SPEC_NAME_POSITION"]

/-- The rules on definition lines; the first is on the letter. -/
def definitionRules : List String := "D_SPEC_COL6" :: "D_SPEC_MISSING_NAME" :: fieldRules

/-- The order is checked on lines of code. -/
theorem written_checkOrder (lines : List Line) :
    WrittenIn (lines.filter Line.isCode) ["SPEC_ORDER"] false Line.raw (checkOrder lines) := by
  -- by induction on the lines, whatever stands in front of them
  have hsteps : ∀ state : OrderState,
      WrittenIn (lines.filter Line.isCode) ["SPEC_ORDER"] false Line.raw
        ((state.steps lines).filterMap Prod.snd) := by
    induction lines with
    | nil => exact fun _ => writtenIn_nil
    | cons line lines ih =>
      intro state
      have hrest := (ih (state.step line).1).mono
        (List.filter_subset Line.isCode (List.subset_cons_self line lines)) (List.Subset.refl _)
      rw [OrderState.steps, List.filterMap_cons]
      cases hissue : (state.step line).2 with
      | none => exact hrest
      | some issue =>
        obtain ⟨hcounts, previous, -, -, rfl⟩ := (state.step_issue line issue).mp hissue
        have hcode : line.isCode := (Bool.and_eq_true_iff.mp hcounts).1
        refine writtenIn_cons.mpr
          ⟨⟨line, List.mem_filter.mpr ⟨List.mem_cons_self, hcode⟩, ?_⟩, hrest⟩
        simp [Issue.writtenOn_iff, orderIssue]
  exact hsteps {}

section

variable (line : Line)

theorem written_letterIssue? (letter : Char) :
    WrittenIn [line] [s!"{letter}_SPEC_COL6"] false Line.raw (letterIssue? line letter).toList := by
  have hspan : Field.specLetter.start < Field.specLetter.stop := by decide
  unfold letterIssue?
  repeat' split
  all_goals simp [Issue.writtenOn_atSpan hspan]

theorem written_controlKeywordIssue? :
    WrittenIn [line] ["H_SPEC_KEYWORD"] false Line.raw (controlKeywordIssue? line).toList := by
  unfold controlKeywordIssue?
  split <;> simp [Issue.writtenOn_iff]

theorem written_fileTypeIssue? :
    WrittenIn [line] ["F_SPEC_FILE_TYPE"] false Line.raw (fileTypeIssue? line).toList := by
  have hspan : Field.fileType.start < Field.fileType.stop := by decide
  unfold fileTypeIssue?
  repeat' split
  all_goals simp [Issue.writtenOn_atSpan hspan]

theorem written_deviceIssue? :
    WrittenIn [line] ["F_SPEC_DEVICE"] false Line.raw (deviceIssue? line).toList := by
  have hspan : Field.device.start < Field.device.stop := by decide
  unfold deviceIssue?
  repeat' split
  all_goals simp [Issue.writtenOn_atSpan hspan]

theorem written_beginEndIssue? :
    WrittenIn [line] ["P_SPEC_BEGIN_END"] false Line.raw (beginEndIssue? line).toList := by
  have hspan : Field.beginEnd.start < Field.beginEnd.stop := by decide
  unfold beginEndIssue?
  repeat' split
  all_goals simp [Issue.writtenOn_atSpan hspan]

/-- The types whose letter is checked with their other columns. -/
def columnLetters : List (SpecType × Char) :=
  [(.control, 'H'), (.file, 'F'), (.procedure, 'P'), (.calculation, 'C')]

/-- The findings on columns are under the rules that are not on the letter, if those on the letter
are. -/
theorem written_checkLineColumns_of {names : List String} (hnames : columnRules.drop 4 ⊆ names)
    (hletter : ∀ spec letter, (spec, letter) ∈ columnLetters → line.spec = spec →
      WrittenIn [line] names false Line.raw (letterIssue? line letter).toList) (level : Level) :
    WrittenIn ([line].filter Line.isCode) names false Line.raw (checkLineColumns level line) := by
  have hself : [line] ⊆ [line] := List.Subset.refl _
  have hmore : ∀ {few : List String}, few ⊆ columnRules.drop 4 → few ⊆ names :=
    fun h => List.Subset.trans h hnames
  have hkeyword := (written_controlKeywordIssue? line).mono hself (hmore (by decide))
  have hfileType := (written_fileTypeIssue? line).mono hself (hmore (by decide))
  have hdevice := (written_deviceIssue? line).mono hself (hmore (by decide))
  have hbeginEnd := (written_beginEndIssue? line).mono hself (hmore (by decide))
  unfold checkLineColumns
  -- comments are passed over, so that a line with a letter that is checked is code
  refine writtenIn_unless.mpr fun hcomment => ?_
  have hcode : ∀ spec letter, (spec, letter) ∈ columnLetters → line.spec = spec →
      [line].filter Line.isCode = [line] := by
    intro spec letter hmem hspec
    refine filter_isCode_singleton ?_
    simp only [columnLetters, List.mem_cons, Prod.mk.injEq, List.not_mem_nil, or_false] at hmem
    rcases hmem with ⟨rfl, -⟩ | ⟨rfl, -⟩ | ⟨rfl, -⟩ | ⟨rfl, -⟩ <;>
      simp [Line.isCode, hspec, hcomment]
  cases hspec : line.spec with
  | control =>
    rw [hcode .control 'H' (by decide) hspec]
    exact writtenIn_append.mpr ⟨hletter _ _ (by decide) hspec, writtenIn_gate.mpr fun _ => hkeyword⟩
  | file =>
    rw [hcode .file 'F' (by decide) hspec]
    exact writtenIn_append.mpr ⟨hletter _ _ (by decide) hspec,
      writtenIn_unless.mpr fun _ => writtenIn_append.mpr ⟨hfileType, hdevice⟩⟩
  | procedure =>
    rw [hcode .procedure 'P' (by decide) hspec]
    exact writtenIn_append.mpr
      ⟨hletter _ _ (by decide) hspec, writtenIn_unless.mpr fun _ => hbeginEnd⟩
  | calculation =>
    rw [hcode .calculation 'C' (by decide) hspec]
    exact hletter _ _ (by decide) hspec
  | _ => exact writtenIn_nil

namespace Definition

theorem written_missingName? :
    WrittenIn [line] ["D_SPEC_MISSING_NAME"] false Line.raw (missingName? line).toList := by
  have hspan : Field.definitionName.start < Field.definitionName.stop := by decide
  unfold missingName?
  split <;> simp [Issue.writtenOn_atSpan hspan]

theorem written_positionOrder? :
    WrittenIn [line] ["D_SPEC_POSITION_ERROR"] false Line.raw (positionOrder? line).toList := by
  have hfirst : 1 ≤ Field.fromPosition.firstColumn := by decide
  have hcolumns : Field.fromPosition.firstColumn ≤ Field.toLength.lastColumn := by decide
  unfold positionOrder?
  repeat' split
  all_goals simp [Issue.writtenOn_iff, hfirst, hcolumns]

theorem written_declarationType? :
    WrittenIn [line] ["D_SPEC_DECL_TYPE"] false Line.raw (declarationType? line).toList := by
  have hspan : Field.declarationType.start < Field.declarationType.stop := by decide
  unfold declarationType?
  repeat' split
  all_goals simp [Issue.writtenOn_atSpan hspan]

theorem written_misplacedDeclaration? :
    WrittenIn [line] ["D_SPEC_DECL_TYPE_MISPLACED"] false Line.raw
      (misplacedDeclaration? line).toList := by
  have hfirst : 1 ≤ shiftedDeclaration.firstColumn := by decide
  have hcolumns : shiftedDeclaration.firstColumn ≤ Field.declarationType.lastColumn := by decide
  unfold misplacedDeclaration?
  split <;> simp [Issue.writtenOn_iff, hfirst, hcolumns]

theorem written_trailingPeriodIssue (name : String) :
    WrittenIn [line] ["D_SPEC_TRAILING_PERIOD"] false Line.raw [trailingPeriodIssue line name] := by
  have hspan : Field.definitionName.start < Field.definitionName.stop := by decide
  simp [trailingPeriodIssue, Issue.writtenOn_atSpan hspan]

theorem written_trailingPeriod? :
    WrittenIn [line] ["D_SPEC_TRAILING_PERIOD"] false Line.raw (trailingPeriod? line).toList := by
  unfold trailingPeriod?
  dsimp only
  split
  · exact written_trailingPeriodIssue line _
  · exact writtenIn_nil

theorem written_periodBeforeMarker? :
    WrittenIn [line] ["D_SPEC_TRAILING_PERIOD"] false Line.raw
      (periodBeforeMarker? line).toList := by
  unfold periodBeforeMarker?
  dsimp only
  repeat' split
  · exact writtenIn_nil
  · exact written_trailingPeriodIssue line _
  · exact writtenIn_nil

theorem written_dataType? :
    WrittenIn [line] ["D_SPEC_DATATYPE"] false Line.raw (dataType? line).toList := by
  have hspan : Field.dataType.start < Field.dataType.stop := by decide
  unfold dataType?
  repeat' split
  all_goals simp [Issue.writtenOn_atSpan hspan]

theorem written_sizeField? :
    WrittenIn [line] ["D_SPEC_POINTER_POSITION", "D_SPEC_SIZE_FIELD"] false Line.raw
      (sizeField? line).toList := by
  have hspan : Field.toLength.start < Field.toLength.stop := by decide
  unfold sizeField? pointerIssue sizeIssue
  repeat' split
  all_goals simp [Issue.writtenOn_atSpan hspan]

theorem written_decimalPositions? :
    WrittenIn [line] ["D_SPEC_DECIMAL"] false Line.raw (decimalPositions? line).toList := by
  have hspan : Field.decimalPositions.start < Field.decimalPositions.stop := by decide
  unfold decimalPositions?
  repeat' split
  all_goals simp [Issue.writtenOn_atSpan hspan]

theorem written_keywordBleed? :
    WrittenIn [line] ["D_SPEC_COLUMN_SHIFT"] false Line.raw (keywordBleed? line).toList := by
  unfold keywordBleed?
  repeat' split
  all_goals simp [Issue.writtenOn_iff]

theorem written_fusedSize? :
    WrittenIn [line] ["D_SPEC_COLUMN_SHIFT"] false Line.raw (fusedSize? line).toList := by
  unfold fusedSize?
  repeat' split
  all_goals simp [Issue.writtenOn_iff]

theorem written_namePosition? :
    WrittenIn [line] ["D_SPEC_NAME_POSITION"] false Line.raw (namePosition? line).toList := by
  have hspan : Field.definitionName.start < Field.definitionName.stop := by decide
  unfold namePosition?
  split
  · exact writtenIn_nil
  · split
    · exact writtenIn_nil
    · dsimp only
      generalize namePositionFault? _ _ = fault
      cases fault <;> simp [Issue.writtenOn_atSpan hspan]

theorem written_checkFields (level : Level) :
    WrittenIn [line] fieldRules false Line.raw (checkFields level line) := by
  have hself : [line] ⊆ [line] := List.Subset.refl _
  unfold checkFields
  simp only [writtenIn_append, writtenIn_gate]
  -- one goal for each rule, in the order of the check
  refine ⟨⟨⟨?_, fun _ => ⟨⟨⟨⟨⟨⟨?_, ?_⟩, ?_⟩, ?_⟩, ?_⟩, ?_⟩, ?_⟩⟩, ?_⟩, fun _ => ?_⟩
  · exact (written_positionOrder? line).mono hself (by decide)
  · exact (written_declarationType? line).mono hself (by decide)
  · exact (written_misplacedDeclaration? line).mono hself (by decide)
  · exact (written_trailingPeriod? line).mono hself (by decide)
  · exact (written_dataType? line).mono hself (by decide)
  · exact (written_sizeField? line).mono hself (by decide)
  · exact (written_decimalPositions? line).mono hself (by decide)
  · exact (written_keywordBleed? line).mono hself (by decide)
  · exact (written_fusedSize? line).mono hself (by decide)
  · exact (written_namePosition? line).mono hself (by decide)

end Definition

/-- The findings on a definition are under the rules that are not on the letter, if those on the
letter are. -/
theorem written_checkDefinition_of {names : List String} (hnames : definitionRules.tail ⊆ names)
    (hspec : line.spec = .definition)
    (hletter : WrittenIn [line] names false Line.raw (letterIssue? line 'D').toList)
    (level : Level) :
    WrittenIn ([line].filter Line.isCode) names false Line.raw (checkDefinition level line) := by
  have hself : [line] ⊆ [line] := List.Subset.refl _
  have hmore : ∀ {few : List String}, few ⊆ definitionRules.tail → few ⊆ names :=
    fun h => List.Subset.trans h hnames
  unfold checkDefinition
  refine writtenIn_unless.mpr fun hcomment => ?_
  have hcode : line.isCode := by simp [Line.isCode, hspec, hcomment]
  rw [filter_isCode_singleton hcode]
  refine writtenIn_append.mpr ⟨hletter, ?_⟩
  split
  · exact writtenIn_nil
  · exact (Definition.written_missingName? line).mono hself (hmore (by decide))
  · split
    · refine writtenIn_gate.mpr fun _ => ?_
      exact (Definition.written_periodBeforeMarker? line).mono hself (hmore (by decide))
    · exact (Definition.written_checkFields line level).mono hself (hmore (by decide))

end

/-- What `LINE_LENGTH` shows of a line. -/
def Line.excerpt (line : Line) : String := slice line.raw 0 50 ++ "..."

theorem written_checkLength (limit : LengthLimit) (lines : List Line) :
    WrittenIn lines ["LINE_LENGTH"] false Line.excerpt (checkLength limit lines) := by
  refine WrittenIn.filterMap fun line hline => ?_
  by_cases h : limit.measure line.raw ≤ limit.max
  · simp [lengthIssue?, h]
  · simp only [lengthIssue?, h, if_false, Option.toList_some, writtenIn_cons, writtenIn_nil,
      and_true]
    exact ⟨line, hline, by simp [Issue.writtenOn_iff, Line.excerpt]⟩

section

variable (level : Level) (lines : List Line)

/-- Columns are checked on lines of code. -/
theorem written_checkColumns_of {names : List String} (hnames : columnRules.drop 4 ⊆ names)
    (hletter : ∀ line ∈ lines, ∀ spec letter, (spec, letter) ∈ columnLetters → line.spec = spec →
      WrittenIn [line] names false Line.raw (letterIssue? line letter).toList) :
    WrittenIn (lines.filter Line.isCode) names false Line.raw (checkColumns level lines) :=
  WrittenIn.flatMap fun line hline =>
    (written_checkLineColumns_of line hnames (hletter line hline) level).mono
      (filter_singleton_subset Line.isCode hline) (List.Subset.refl _)

theorem written_checkColumns :
    WrittenIn (lines.filter Line.isCode) columnRules false Line.raw (checkColumns level lines) := by
  refine written_checkColumns_of level lines (by decide) fun line _ spec letter hmem _ => ?_
  refine (written_letterIssue? line letter).mono (List.Subset.refl _) ?_
  have hrules : ∀ p ∈ columnLetters, [s!"{p.2}_SPEC_COL6"] ⊆ columnRules := by decide
  exact hrules (spec, letter) hmem

/-- Definitions are checked on lines of code. -/
theorem written_checkDefinitions_of {names : List String} (hnames : definitionRules.tail ⊆ names)
    (hletter : ∀ line ∈ lines, line.spec = .definition →
      WrittenIn [line] names false Line.raw (letterIssue? line 'D').toList) :
    WrittenIn (lines.filter Line.isCode) names false Line.raw (checkDefinitions level lines) := by
  refine WrittenIn.flatMap fun line hmem => ?_
  obtain ⟨hline, hspec⟩ := List.mem_filter.mp hmem
  rw [beq_iff_eq] at hspec
  exact (written_checkDefinition_of line hnames hspec (hletter line hline hspec) level).mono
    (filter_singleton_subset Line.isCode hline) (List.Subset.refl _)

theorem written_checkDefinitions :
    WrittenIn (lines.filter Line.isCode) definitionRules false Line.raw
      (checkDefinitions level lines) :=
  written_checkDefinitions_of level lines (by decide) fun line _ _ =>
    (written_letterIssue? line 'D').mono (List.Subset.refl _) (by decide)

/-! ### Statements and directives -/

theorem written_checkContinuations :
    WrittenIn lines
      ["CONTINUATION_NO_PREVIOUS", "CONTINUATION_AFTER_COMMENT", "CONTINUATION_TYPE_MISMATCH"]
      false Line.raw (checkContinuations lines) := by
  -- the induction is on the lines, whatever stands in front of them
  have hfrom : ∀ before : Predecessor, WrittenIn lines
      ["CONTINUATION_NO_PREVIOUS", "CONTINUATION_AFTER_COMMENT", "CONTINUATION_TYPE_MISMATCH"]
      false Line.raw (checkContinuationsFrom before lines) := by
    induction lines with
    | nil => exact fun _ => writtenIn_nil
    | cons line lines ih =>
      intro before
      refine writtenIn_append.mpr
        ⟨?_, (ih _).mono (List.subset_cons_self line lines) (List.Subset.refl _)⟩
      unfold continuationIssue? continuationIssue
      repeat' split
      all_goals simp [Issue.writtenOn_iff]
  exact hfrom .nothing

omit level in
theorem written_multipleStatements (fullyFree inFreeBlock : Bool) (line : Line) :
    WrittenIn [line] ["MULTIPLE_STATEMENTS"] false Line.raw
      (multipleStatements fullyFree inFreeBlock line) := by
  unfold multipleStatements multipleStatementsIssue
  simp [Issue.writtenOn_iff]

theorem written_checkMultipleStatements :
    WrittenIn lines ["MULTIPLE_STATEMENTS"] false Line.raw (checkMultipleStatements lines) := by
  -- whether a free block is open or not
  have hfrom : ∀ fullyFree inFreeBlock : Bool,
      WrittenIn lines ["MULTIPLE_STATEMENTS"] false Line.raw
        (checkMultipleStatementsFrom fullyFree inFreeBlock lines) := by
    intro fullyFree
    induction lines with
    | nil => exact fun _ => writtenIn_nil
    | cons line lines ih =>
      intro inFreeBlock
      have hline := written_multipleStatements fullyFree inFreeBlock line
      refine writtenIn_append.mpr
        ⟨hline.mono ?_ (List.Subset.refl _), (ih _).mono ?_ (List.Subset.refl _)⟩
      · exact List.cons_subset_cons line (List.nil_subset lines)
      · exact List.subset_cons_self line lines
  exact hfrom _ _

theorem written_checkFreeDirectives :
    WrittenIn lines ["UNMATCHED_FREE", "UNMATCHED_END_FREE"] false Line.raw
      (checkFreeDirectives lines) := by
  -- an open directive is one of the lines already read, and is reported behind all of them
  have hfrom : ∀ pending : List Line, pending ⊆ lines → ∀ rest : List Line, rest ⊆ lines →
      WrittenIn lines ["UNMATCHED_FREE", "UNMATCHED_END_FREE"] false Line.raw
        (checkFreeDirectivesFrom pending rest) := by
    intro pending hpending rest hrest
    induction rest generalizing pending with
    | nil =>
      refine List.forall_mem_map.mpr fun line hline =>
        ⟨line, hpending (List.mem_reverse.mp hline), ?_⟩
      simp [Issue.writtenOn_iff, unmatchedFree]
    | cons line rest ih =>
      obtain ⟨hline, hrest⟩ := List.cons_subset.mp hrest
      unfold checkFreeDirectivesFrom
      split
      · -- an opening directive
        exact ih (line :: pending) (List.cons_subset.mpr ⟨hline, hpending⟩) hrest
      · -- a closing directive: without an open one it is reported itself
        cases pending with
        | nil =>
          refine writtenIn_cons.mpr ⟨⟨line, hline, ?_⟩, ih [] hpending hrest⟩
          simp [Issue.writtenOn_iff, unmatchedEndFree]
        | cons first outer => exact ih outer (List.cons_subset.mp hpending).2 hrest
      · -- any other line
        exact ih pending hpending hrest
  exact hfrom [] (List.nil_subset lines) lines (List.Subset.refl lines)

theorem written_checkFreeMisuse_of {names : List String} (hafter : "FREE_AFTER_FIXED" ∈ names)
    (hconfusion : hasFreeSentinel lines → "FREE_FORMAT_CONFUSION" ∈ names) :
    WrittenIn lines names false Line.raw (checkFreeMisuse lines) := by
  have hfrom : ∀ fullyFree seenFixed : Bool, (fullyFree → "FREE_FORMAT_CONFUSION" ∈ names) →
      ∀ rest : List Line, rest ⊆ lines →
        WrittenIn lines names false Line.raw (checkFreeMisuseFrom fullyFree seenFixed rest) := by
    intro fullyFree seenFixed hnames rest hrest
    induction rest generalizing seenFixed with
    | nil => exact writtenIn_nil
    | cons line rest ih =>
      obtain ⟨hline, hrest⟩ := List.cons_subset.mp hrest
      refine writtenIn_append.mpr
        ⟨writtenIn_gate.mpr fun _ => writtenIn_append.mpr ⟨?_, ?_⟩, ih _ hrest⟩
      · -- a directive below the sentinel, and then one behind fixed-format code
        refine writtenIn_gate.mpr fun hfree => writtenIn_cons.mpr ⟨⟨line, hline, ?_⟩, writtenIn_nil⟩
        simp [Issue.writtenOn_iff, freeConfusion, hnames hfree]
      · refine writtenIn_gate.mpr fun _ => writtenIn_cons.mpr ⟨⟨line, hline, ?_⟩, writtenIn_nil⟩
        simp [Issue.writtenOn_iff, freeAfterFixed, hafter]
  exact hfrom _ false hconfusion lines (List.Subset.refl lines)

theorem written_checkFreeMisuse :
    WrittenIn lines ["FREE_FORMAT_CONFUSION", "FREE_AFTER_FIXED"] false Line.raw
      (checkFreeMisuse lines) :=
  written_checkFreeMisuse_of lines (by decide) fun _ => by decide

theorem written_checkContinuationGaps :
    WrittenIn lines ["CONTINUATION_FOLLOWED_BY_BLANK"] false Line.raw
      (checkContinuationGaps lines) := by
  refine WrittenIn.filterMap fun pair hpair => ?_
  have hline : pair.1 ∈ lines := (List.of_mem_zip hpair).1
  dsimp only
  split
  · refine writtenIn_cons.mpr ⟨⟨pair.1, hline, ?_⟩, writtenIn_nil⟩
    simp [Issue.writtenOn_iff, continuationGapIssue]
  · exact writtenIn_nil

theorem map_head_statementGroups :
    (statementGroups lines).map StatementGroup.head = lines.filter Line.beginsStatement := by
  induction lines with
  | nil => rfl
  | cons line lines ih =>
    rw [statementGroups, List.filter_cons, ← ih]
    split <;> rfl

/-- A statement begins on one of the lines. -/
theorem head_mem_of_mem_statementGroups {group : StatementGroup}
    (h : group ∈ statementGroups lines) :
    group.head ∈ lines := by
  have hhead := List.mem_map_of_mem (f := StatementGroup.head) h
  rw [map_head_statementGroups] at hhead
  exact List.mem_of_mem_filter hhead

theorem written_checkParentheses :
    WrittenIn lines ["UNMATCHED_PARENTHESES"] false Line.raw (checkParentheses lines) := by
  refine WrittenIn.filterMap fun group hgroup => ?_
  unfold parenthesesIssue?
  dsimp only
  split
  · exact writtenIn_nil
  · refine writtenIn_cons.mpr
      ⟨⟨group.head, head_mem_of_mem_statementGroups lines hgroup, ?_⟩, writtenIn_nil⟩
    simp [Issue.writtenOn_iff]

theorem written_checkQuotes :
    WrittenIn lines ["UNMATCHED_QUOTES"] false Line.raw (checkQuotes lines) := by
  refine WrittenIn.filterMap fun group hgroup => ?_
  unfold quotesIssue?
  dsimp only
  repeat' split
  · exact writtenIn_nil
  · exact writtenIn_nil
  · refine writtenIn_cons.mpr
      ⟨⟨group.head, head_mem_of_mem_statementGroups lines hgroup, ?_⟩, writtenIn_nil⟩
    simp [Issue.writtenOn_iff]

/-! ### Definitions out of place and file names -/

theorem written_lateDefinition? :
    WrittenIn lines ["D_AFTER_C"] false Line.raw (lateDefinition? lines).toList := by
  -- the search stops at its finding, so there is one on the line or it goes on behind it
  have hfrom : ∀ (inside : Bool) (calculation : Option Nat),
      WrittenIn lines ["D_AFTER_C"] false Line.raw
        (lateDefinitionFrom? inside calculation lines).toList := by
    induction lines with
    | nil => exact fun _ _ => writtenIn_nil
    | cons line lines ih =>
      intro inside calculation
      have hrest := fun inside calculation =>
        (ih inside calculation).mono (List.subset_cons_self line lines) (List.Subset.refl _)
      unfold lateDefinitionFrom?
      dsimp only
      repeat' split
      all_goals first | exact hrest _ _ | simp [Issue.writtenOn_iff, lateDefinitionIssue]
  exact hfrom _ _

/-- File names are checked on lines of code. -/
theorem written_fileNameSpacing :
    WrittenIn (lines.filter Line.isCode) ["F_SPEC_SPACING"] false Line.raw
      (lines.filterMap fileNameSpacing?) := by
  have hfirst : 1 ≤ Field.fileType.firstColumn := by decide
  refine WrittenIn.filterMap fun line hline => ?_
  unfold fileNameSpacing?
  split
  · exact writtenIn_nil
  · next hfile =>
    split
    · exact writtenIn_nil
    · -- only file lines that are no comments get here
      have hcode : line.isCode := by
        simp only [Bool.or_eq_true, bne_iff_ne, ne_eq, decide_eq_true_eq, not_or, not_not] at hfile
        simp [Line.isCode, hfile]
      refine writtenIn_cons.mpr ⟨⟨line, List.mem_filter.mpr ⟨hline, hcode⟩, ?_⟩, writtenIn_nil⟩
      simp [Issue.writtenOn_iff, hfirst]

/-! ### Names -/

/-- The rules on names. -/
def nameRules : List String :=
  ["VAR_NAME_TOO_SHORT", "VAR_NAME_INVALID_CHARS", "VAR_NAME_STARTS_WITH_DIGIT",
    "VAR_NAME_RESERVED", "VAR_NAME_GENERIC", "VAR_NAME_TOO_LONG", "PROC_NAME_INVALID_CHARS",
    "PROC_NAME_STARTS_WITH_DIGIT", "PROC_NAME_VERB_PREFIX", "PROC_NAME_CASE_STYLE",
    "FILE_NAME_INVALID_CHARS"]

theorem written_checkLineName (line : Line) :
    WrittenIn [line] nameRules true Line.raw (checkLineName level line) := by
  have hdefinition : Field.definitionName.start < Field.definitionName.stop := by decide
  have hprocedure : Field.procedureName.start < Field.procedureName.stop := by decide
  have hfile : Field.fileName.start < Field.fileName.stop := by decide
  -- a blank name is not reported on
  have hname : ∀ (name : Option String) (f : String → List Issue),
      (∀ name, WrittenIn [line] nameRules true Line.raw (f name)) →
        WrittenIn [line] nameRules true Line.raw ((name.map f).getD []) := by
    intro name f hf
    cases name with
    | none => exact writtenIn_nil
    | some name => exact hf name
  unfold checkLineName
  refine writtenIn_unless.mpr fun _ => ?_
  cases line.spec with
  | definition =>
    exact hname _ _ fun name => by
      simp [checkVariableName, nameIssue, nameRules, Issue.writtenOn_atSpan hdefinition]
  | procedure =>
    exact writtenIn_gate.mpr fun _ => hname _ _ fun name => by
      simp [checkProcedureName, nameIssue, nameRules, Issue.writtenOn_atSpan hprocedure]
  | file =>
    exact writtenIn_gate.mpr fun _ => hname _ _ fun name => by
      simp [checkFileName, nameIssue, nameRules, Issue.writtenOn_atSpan hfile]
  | _ => exact writtenIn_nil

theorem written_checkNames : WrittenIn lines nameRules true Line.raw (checkNames level lines) := by
  refine WrittenIn.flatMap fun line hline => ?_
  have hlines : [line] ⊆ lines := List.cons_subset.mpr ⟨hline, List.nil_subset lines⟩
  exact (written_checkLineName level line).mono hlines (List.Subset.refl _)

/-! ### Legacy constructs -/

theorem written_checkDeprecated :
    WrittenIn lines ["DEPRECATED_OPCODE"] false Line.raw (checkDeprecated lines) := by
  have hspan : Field.opcode.start < Field.opcode.stop := by decide
  refine WrittenIn.filterMap fun line hline => ?_
  cases DeprecatedOpcode.ofLine? line with
  | none => exact writtenIn_nil
  | some entry =>
    refine writtenIn_cons.mpr ⟨⟨line, hline, ?_⟩, writtenIn_nil⟩
    simp [deprecatedIssue, Issue.writtenOn_atSpan hspan]

theorem written_checkJumps : WrittenIn lines ["NO_GOTO"] false Line.raw (checkJumps lines) := by
  have hspan : Field.opcode.start < Field.opcode.stop := by decide
  refine WrittenIn.filterMap fun line hline => ?_
  unfold jumpIssue?
  repeat' split
  all_goals simp [Issue.writtenOn_atSpan hspan]
  exact ⟨line, hline, rfl, rfl⟩

end

/-- An indicator stands in a column of the text, and has a text of its own. -/
theorem columns_of_mem_indicatorUses {column : Nat} {cs : List Char} {use : IndicatorUse}
    (h : use ∈ Chars.indicatorUses column cs) : column ≤ use.column ∧ 1 ≤ charLength use.text := by
  induction cs generalizing column with
  | nil => cases h
  | cons c cs ih =>
    unfold Chars.indicatorUses at h
    cases htext : Chars.indicator? (c :: cs) with
    | none =>
      rw [htext] at h
      exact (ih h).imp Nat.le_of_succ_le id
    | some text =>
      rw [htext] at h
      rcases List.mem_cons.mp h with rfl | hrest
      · -- an indicator has the asterisk, the letters and the digits
        have hlength : 1 ≤ text.length := by
          unfold Chars.indicator? at htext
          grind
        exact ⟨Nat.le_refl column, by simpa [charLength] using hlength⟩
      · exact (ih hrest).imp Nat.le_of_succ_le id

theorem written_checkIndicators (lines : List Line) :
    WrittenIn lines ["INDICATOR_USAGE"] false Line.raw (checkIndicators lines) := by
  refine WrittenIn.flatMap fun line hline => writtenIn_unless.mpr fun _ => ?_
  refine List.forall_mem_map.mpr fun use huse => ?_
  obtain ⟨hcolumn, htext⟩ := columns_of_mem_indicatorUses huse
  refine ⟨line, hline, ?_⟩
  simp only [Issue.writtenOn_iff, indicatorIssue]
  simp [hcolumn]
  omega

/-! ### Findings on the first line -/

section

variable {first : Line} (hfirst : first.number = 1) (lines : List Line)

include hfirst

/-- The findings on a mixed member are on its first line, and on one of its lines. -/
theorem written_checkFullyFree :
    WrittenIn (first :: lines) ["MIXED_FORMAT", "FREE_POSITION"] false Line.raw
      (checkFullyFree lines) := by
  refine writtenIn_unless.mpr fun _ => writtenIn_append.mpr ⟨writtenIn_gate.mpr fun _ => ?_, ?_⟩
  · refine writtenIn_cons.mpr ⟨⟨first, List.mem_cons_self, ?_⟩, writtenIn_nil⟩
    simp [Issue.writtenOn_iff, mixedFormat, hfirst]
  · -- the sentinel is not in front: the finding is on the first line of code before it
    cases hlate : List.find? (·.isFixedCode) (lines.takeWhile (·.spec != .free)) with
    | none => exact writtenIn_nil
    | some late =>
      have hmem : late ∈ lines := (List.takeWhile_subset _) (List.mem_of_find?_eq_some hlate)
      refine writtenIn_cons.mpr ⟨⟨late, List.mem_cons_of_mem first hmem, ?_⟩, writtenIn_nil⟩
      simp [Issue.writtenOn_iff, lateSentinel]

/-- The advice is on the first line. -/
theorem written_adviseFreeForm? :
    WrittenIn (first :: lines) ["RECOMMEND_FULLY_FREE"] false Line.raw
      (adviseFreeForm? lines).toList := by
  unfold adviseFreeForm?
  split
  · exact writtenIn_nil
  · refine writtenIn_cons.mpr ⟨⟨first, List.mem_cons_self, ?_⟩, writtenIn_nil⟩
    simp [Issue.writtenOn_iff, hfirst]

end

/-! ### All checks -/

/-- The findings of a full check without rules of the user, check by check, each with its rules. -/
def checkParts (limit : LengthLimit) (level : Level) (lines : List Line) :
    List (List String × List Issue) :=
  [(["SPEC_ORDER"], checkOrder lines),
    (columnRules, checkColumns level lines),
    (definitionRules, checkDefinitions level lines),
    (["LINE_LENGTH"], checkLength limit lines),
    (["CONTINUATION_NO_PREVIOUS", "CONTINUATION_AFTER_COMMENT", "CONTINUATION_TYPE_MISMATCH"],
      checkContinuations lines),
    (["MULTIPLE_STATEMENTS"], if level.atLeastStandard then checkMultipleStatements lines else []),
    (["UNMATCHED_FREE", "UNMATCHED_END_FREE"], checkFreeDirectives lines),
    (["MIXED_FORMAT", "FREE_POSITION"], if level.isStrict then checkFullyFree lines else []),
    (nameRules, checkNames level lines),
    (["DEPRECATED_OPCODE"], checkDeprecated lines),
    (["INDICATOR_USAGE"], if level.atLeastStandard then checkIndicators lines else []),
    (["NO_GOTO"], if level.atLeastStandard then checkJumps lines else []),
    (["RECOMMEND_FULLY_FREE"], if level.isStrict then (adviseFreeForm? lines).toList else []),
    (["F_SPEC_SPACING"], lines.filterMap fileNameSpacing?),
    (["CONTINUATION_FOLLOWED_BY_BLANK"], checkContinuationGaps lines),
    (["FREE_FORMAT_CONFUSION", "FREE_AFTER_FIXED"], checkFreeMisuse lines),
    (["D_AFTER_C"], (lateDefinition? lines).toList),
    (["UNMATCHED_PARENTHESES"], if level.atLeastStandard then checkParentheses lines else []),
    (["UNMATCHED_QUOTES"], if level.atLeastStandard then checkQuotes lines else [])]

/-- What the findings under the rules of a check show of a line. -/
def shownUnder (names : List String) : Line → String :=
  if names = ["LINE_LENGTH"] then Line.excerpt else Line.raw

/-- **What all checks write.**  Each of them writes on the lines that it was given or on the first
line, under its own rules, and only the check of names reports on names. -/
theorem written_checkParts {first : Line} (hfirst : first.number = 1) (limit : LengthLimit)
    (level : Level) (lines : List Line) :
    ∀ part ∈ checkParts limit level lines,
      WrittenIn (first :: lines) part.1 (part.1 == nameRules) (shownUnder part.1) part.2 := by
  have hlines : lines ⊆ first :: lines := List.subset_cons_self first lines
  have hcode : lines.filter Line.isCode ⊆ first :: lines :=
    List.Subset.trans (List.filter_subset_self lines) hlines
  -- apart from names and the length, checks show the whole line and report on no name
  have hpart : ∀ {among : List Line} {names : List String} {issues : List Issue},
      among ⊆ first :: lines →
      (names == nameRules) = false → names ≠ ["LINE_LENGTH"] →
      WrittenIn among names false Line.raw issues →
        WrittenIn (first :: lines) names (names == nameRules) (shownUnder names) issues := by
    intro among names issues hamong hnaming hlength h
    rw [hnaming, shownUnder, if_neg hlength]
    exact h.mono hamong (List.Subset.refl _)
  simp only [checkParts, List.forall_mem_cons]
  refine ⟨hpart hcode (by decide) (by decide) (written_checkOrder lines),
    hpart hcode (by decide) (by decide) (written_checkColumns level lines),
    hpart hcode (by decide) (by decide) (written_checkDefinitions level lines),
    (written_checkLength limit lines).mono hlines (List.Subset.refl _),
    hpart hlines (by decide) (by decide) (written_checkContinuations lines),
    hpart hlines (by decide) (by decide)
      (writtenIn_gate.mpr fun _ => written_checkMultipleStatements lines),
    hpart hlines (by decide) (by decide) (written_checkFreeDirectives lines),
    hpart (List.Subset.refl _) (by decide) (by decide)
      (writtenIn_gate.mpr fun _ => written_checkFullyFree hfirst lines),
    (written_checkNames level lines).mono hlines (List.Subset.refl _),
    hpart hlines (by decide) (by decide) (written_checkDeprecated lines),
    hpart hlines (by decide) (by decide)
      (writtenIn_gate.mpr fun _ => written_checkIndicators lines),
    hpart hlines (by decide) (by decide) (writtenIn_gate.mpr fun _ => written_checkJumps lines),
    hpart (List.Subset.refl _) (by decide) (by decide)
      (writtenIn_gate.mpr fun _ => written_adviseFreeForm? hfirst lines),
    hpart hcode (by decide) (by decide) (written_fileNameSpacing lines),
    hpart hlines (by decide) (by decide) (written_checkContinuationGaps lines),
    hpart hlines (by decide) (by decide) (written_checkFreeMisuse lines),
    hpart hlines (by decide) (by decide) (written_lateDefinition? lines),
    hpart hlines (by decide) (by decide)
      (writtenIn_gate.mpr fun _ => written_checkParentheses lines),
    hpart hlines (by decide) (by decide) (writtenIn_gate.mpr fun _ => written_checkQuotes lines),
    List.forall_mem_nil _⟩

/-! ### Rules of the user -/

/-- A rule of the user points at the line that it reads, without a column, and shows its text. -/
theorem pointsAt_of_mem_checkRules {rules : List CompiledRule} {lines : List Line} {issue : Issue}
    (h : issue ∈ checkRules rules lines) :
    ∃ line ∈ lines, issue.PointsAt line line.raw ∧ issue.column = none := by
  obtain ⟨line, hline, hfinding⟩ := List.mem_flatMap.mp h
  obtain ⟨compiled, -, hissue⟩ := List.mem_filterMap.mp hfinding
  rw [CompiledRule.finding?] at hissue
  split at hissue
  · cases hissue
  · rw [← Option.some.inj hissue]
    refine ⟨line, hline, ⟨rfl, ?_, ?_, ?_⟩, rfl⟩ <;> simp

end RpgLint
