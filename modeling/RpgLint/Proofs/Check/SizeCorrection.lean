import RpgLint.Proofs.Check.CodeArea
import RpgLint.Proofs.Check.Realigned
import RpgLint.Proofs.Check.RuleNames

/-!
# The correction of a fused size

The check of definitions proposes a corrected line in one case, a size fused with its data type.
The corrected line is of the same type, and of a definition it has the same record but for these two
fields, which it has in their columns.  Checked again, it is found to be without a column shift, and
whatever else is found in it was found in the line before, but for the order of the positions: only
now is there a number to compare.

The checks of a definition do not ask for its type, so that they find the same in a line of another
type and propose a line that is no definition either.

## Main definitions

* `Uncorrected` — findings without a correction.
* `Definition.checkOtherFields` — the checks of the fields other than size and data type.
* `Definition.resized` — a record with another size and data type.
* `Definition.Corrects` — what a line and its correction have in common, and what they have not.

## Main results

* `Definition.fusedSize_of_correction` — where a correction comes from.
* `Definition.FusedSize.checkDefinition_realign` — the checks of the realigned line.
* `Definition.corrects_of_mem_checkDefinition` — the correction is sound.
* `Definition.header_correction_no_definition` — a line of another type stays what it is.
-/

namespace RpgLint

/-! ### Findings without a correction -/

/-- None of the findings proposes a corrected line. -/
def Uncorrected (issues : List Issue) : Prop := ∀ issue ∈ issues, issue.correction = none

@[simp] theorem Issue.correction_atSpan (span : Span) (issue : Issue) :
    (issue.atSpan span).correction = issue.correction := by
  unfold Issue.atSpan
  split <;> rfl

@[simp] theorem uncorrected_nil : Uncorrected [] := List.forall_mem_nil _

@[simp] theorem uncorrected_cons {issue : Issue} {issues : List Issue} :
    Uncorrected (issue :: issues) ↔ issue.correction = none ∧ Uncorrected issues :=
  List.forall_mem_cons

@[simp] theorem uncorrected_append {issues rest : List Issue} :
    Uncorrected (issues ++ rest) ↔ Uncorrected issues ∧ Uncorrected rest :=
  List.forall_mem_append

/-- Findings behind a gate. -/
@[simp] theorem uncorrected_gate {condition : Prop} [Decidable condition] {issues : List Issue} :
    Uncorrected (if condition then issues else []) ↔ condition → Uncorrected issues := by
  by_cases h : condition <;> simp [h]

theorem uncorrected_letterIssue? (line : Line) (letter : Char) :
    Uncorrected (letterIssue? line letter).toList := by
  unfold letterIssue?
  repeat' split
  all_goals simp

namespace Definition

section

variable (line : Line)

theorem uncorrected_missingName? : Uncorrected (missingName? line).toList := by
  unfold missingName?
  split <;> simp

theorem uncorrected_positionOrder? : Uncorrected (positionOrder? line).toList := by
  unfold positionOrder?
  repeat' split
  all_goals simp

theorem uncorrected_declarationType? : Uncorrected (declarationType? line).toList := by
  unfold declarationType?
  repeat' split
  all_goals simp

theorem uncorrected_misplacedDeclaration? : Uncorrected (misplacedDeclaration? line).toList := by
  unfold misplacedDeclaration?
  split <;> simp

theorem uncorrected_trailingPeriod? : Uncorrected (trailingPeriod? line).toList := by
  unfold trailingPeriod? trailingPeriodIssue
  dsimp only
  split <;> simp

theorem uncorrected_periodBeforeMarker? : Uncorrected (periodBeforeMarker? line).toList := by
  unfold periodBeforeMarker? trailingPeriodIssue
  dsimp only
  repeat' split
  all_goals simp

theorem uncorrected_dataType? : Uncorrected (dataType? line).toList := by
  unfold dataType?
  repeat' split
  all_goals simp

theorem uncorrected_sizeField? : Uncorrected (sizeField? line).toList := by
  unfold sizeField? pointerIssue sizeIssue
  repeat' split
  all_goals simp

theorem uncorrected_decimalPositions? : Uncorrected (decimalPositions? line).toList := by
  unfold decimalPositions?
  repeat' split
  all_goals simp

theorem uncorrected_keywordBleed? : Uncorrected (keywordBleed? line).toList := by
  unfold keywordBleed?
  repeat' split
  all_goals simp

theorem uncorrected_namePosition? : Uncorrected (namePosition? line).toList := by
  unfold namePosition?
  split
  · exact uncorrected_nil
  · split
    · exact uncorrected_nil
    · dsimp only
      generalize namePositionFault? _ _ = fault
      cases fault <;> simp

end

/-! ### The fields other than size and data type -/

/-- The findings on the fields of a definition other than its size and its data type. -/
def checkOtherFields (level : Level) (line : Line) : List Issue :=
  (positionOrder? line).toList ++
    (if level.atLeastStandard then
      (declarationType? line).toList ++ (misplacedDeclaration? line).toList ++
        (trailingPeriod? line).toList ++ (decimalPositions? line).toList
    else []) ++
    (if level.isStrict then (namePosition? line).toList else [])

/-- The rules on these fields. -/
def otherFieldRules : List String :=
  ["D_SPEC_POSITION_ERROR", "D_SPEC_DECL_TYPE", "D_SPEC_DECL_TYPE_MISPLACED",
    "D_SPEC_TRAILING_PERIOD", "D_SPEC_DECIMAL", "D_SPEC_NAME_POSITION"]

section

variable {level : Level} {line : Line} {issue : Issue}

theorem uncorrected_checkOtherFields : Uncorrected (checkOtherFields level line) := by
  simp [checkOtherFields, uncorrected_positionOrder?, uncorrected_declarationType?,
    uncorrected_misplacedDeclaration?, uncorrected_trailingPeriod?, uncorrected_decimalPositions?,
    uncorrected_namePosition?]

theorem written_checkOtherFields :
    WrittenIn [line] otherFieldRules false Line.raw (checkOtherFields level line) := by
  have hself : [line] ⊆ [line] := List.Subset.refl _
  unfold checkOtherFields
  simp only [writtenIn_append, writtenIn_gate]
  refine ⟨⟨?_, fun _ => ⟨⟨⟨?_, ?_⟩, ?_⟩, ?_⟩⟩, fun _ => ?_⟩
  · exact (written_positionOrder? line).mono hself (by decide)
  · exact (written_declarationType? line).mono hself (by decide)
  · exact (written_misplacedDeclaration? line).mono hself (by decide)
  · exact (written_trailingPeriod? line).mono hself (by decide)
  · exact (written_decimalPositions? line).mono hself (by decide)
  · exact (written_namePosition? line).mono hself (by decide)

/-- The findings on the fields of a definition. -/
theorem mem_checkFields_iff : issue ∈ checkFields level line ↔
    issue ∈ checkOtherFields level line ∨ issue ∈ fusedSize? line ∨
      level.atLeastStandard ∧
        (issue ∈ dataType? line ∨ issue ∈ sizeField? line ∨ issue ∈ keywordBleed? line) := by
  simp only [checkFields, checkOtherFields, List.mem_append, List.mem_ite_nil_right,
    Option.mem_toList, Option.mem_def]
  grind

/-- The findings on a line with fields to check. -/
theorem checkDefinition_eq_checkFields (hcomment : line.isComment = false)
    (hbegins : line.continuation = none) (hname : continuesName line.raw = false) :
    checkDefinition level line = (letterIssue? line 'D').toList ++ checkFields level line := by
  rw [checkDefinition, hcomment, hbegins]
  simp [hname]

end

/-! ### Where a correction comes from -/

/-- A fused size splits into its digits and the letter behind them. -/
theorem toList_of_splitFused? {size digits : String} {letter : Char}
    (h : splitFused? size = some (digits, letter)) :
    size.toList = digits.toList ++ [letter] ∧ digits.toList ≠ [] ∧
      ∀ c ∈ digits.toList, isAsciiDigit c = true := by
  unfold splitFused? at h
  split at h
  · cases h
  · next last hlast =>
    dsimp only at h
    split at h
    · next hfused =>
      cases h
      simp only [Bool.and_eq_true, Bool.not_eq_true', List.isEmpty_eq_false_iff,
        List.all_eq_true] at hfused
      obtain ⟨⟨hne, hdigits⟩, -⟩ := hfused
      rw [String.toList_ofList]
      exact ⟨(List.dropLast_append_getLast? _ hlast).symm, hne, hdigits⟩
    · cases h

/-- Digits alone are no fused size. -/
theorem splitFused?_of_allDigits {digits : String}
    (h : ∀ c ∈ digits.toList, isAsciiDigit c = true) : splitFused? digits = none := by
  unfold splitFused?
  split
  · rfl
  · next last hlast =>
    -- what is split off is a letter or an asterisk, and no digit is one
    have hdigits : "0123456789".toList.all (fun d => !(isAsciiLetter d || d == '*')) = true := by
      decide
    have hnot := of_isAsciiDigit (h last (List.mem_of_getLast? hlast)) hdigits
    rw [Bool.not_eq_true'] at hnot
    dsimp only
    rw [hnot, Bool.and_false]
    rfl

/-- A fused size for which a realigned line is proposed. -/
theorem fusedSize_of_fusedSize? {line : Line} {issue : Issue} {fixed : String}
    (hissue : fusedSize? line = some issue) (hfixed : issue.correction = some fixed) :
    ∃ digits letter, (Field.toLength.extract? line.raw).bind splitFused? = some (digits, letter) ∧
      FusedSize line.raw digits letter ∧ fixed = realign line.raw digits letter := by
  unfold fusedSize? at hissue
  split at hissue
  · cases hissue
  · next size hsize =>
    split at hissue
    · cases hissue
    · next digits letter hsplit =>
      cases hissue
      dsimp only at hfixed
      split at hfixed
      · -- a line is proposed only for the letter of a data type
        next htype =>
        obtain ⟨hchars, hne, hdigits⟩ := toList_of_splitFused? hsplit
        refine ⟨digits, letter, by rw [hsize, Option.bind_some, hsplit], ?_,
          (Option.some.inj hfixed).symm⟩
        exact ⟨(Span.trim_text_of_extract? hsize).trans hchars, hne, hdigits,
          List.contains_iff_mem.mp htype⟩
      · cases hfixed

/-- **Only a fused size is corrected**, on a line with fields to check. -/
theorem fusedSize_of_correction {level : Level} {line : Line} {issue : Issue} {fixed : String}
    (hissue : issue ∈ checkDefinition level line) (hfixed : issue.correction = some fixed) :
    (line.isComment = false ∧ line.continuation = none ∧ continuesName line.raw = false) ∧
      ∃ digits letter, (Field.toLength.extract? line.raw).bind splitFused? = some (digits, letter) ∧
        FusedSize line.raw digits letter ∧ fixed = realign line.raw digits letter := by
  -- all other checks are passed over because their findings have no correction
  have hnot : ∀ {issues : List Issue}, Uncorrected issues → issue ∉ issues := by
    intro issues hissues hmem
    rw [hissues issue hmem] at hfixed
    cases hfixed
  unfold checkDefinition at hissue
  cases hcomment : line.isComment with
  | true => simp [hcomment] at hissue
  | false =>
    rw [if_neg (Bool.eq_false_iff.mp hcomment), List.mem_append] at hissue
    have hrest := hissue.resolve_left (hnot (uncorrected_letterIssue? line 'D'))
    cases hbegins : line.continuation with
    | some kind =>
      rw [hbegins] at hrest
      cases kind with
      | marker => cases hrest
      | blankField => exact absurd hrest (hnot (uncorrected_missingName? line))
    | none =>
      rw [hbegins] at hrest
      cases hname : continuesName line.raw with
      | true =>
        rw [if_pos hname] at hrest
        exact absurd hrest
          (hnot (uncorrected_gate.mpr fun _ => uncorrected_periodBeforeMarker? line))
      | false =>
        rw [if_neg (Bool.eq_false_iff.mp hname), mem_checkFields_iff] at hrest
        refine ⟨⟨rfl, rfl, rfl⟩, ?_⟩
        rcases hrest with hother | hfused | ⟨-, htype | hsize | hkeyword⟩
        · exact absurd hother (hnot uncorrected_checkOtherFields)
        · exact fusedSize_of_fusedSize? hfused hfixed
        · exact absurd (Option.mem_toList.mpr htype) (hnot (uncorrected_dataType? line))
        · exact absurd (Option.mem_toList.mpr hsize) (hnot (uncorrected_sizeField? line))
        · exact absurd (Option.mem_toList.mpr hkeyword) (hnot (uncorrected_keywordBleed? line))

/-! ### The checks of the realigned line -/

/-- No keyword that betrays a shift is written with digits and blanks. -/
theorem strayKeyword?_eq_none {raw : String}
    (h : ∀ c ∈ (Field.toLength.text raw).toList, c = ' ' ∨ isAsciiDigit c = true) :
    strayKeyword? raw = none := by
  -- every keyword has a letter that is neither a digit nor a blank
  have hfirst : ∀ keyword ∈ shiftKeywords, (keywordStart keyword).toList.any
      (!((' ' :: "0123456789".toList).map Char.toUpper).contains ·) = true := by decide
  -- a keyword that is found leaves its letter among the characters of the field
  refine List.find?_eq_none.mpr fun keyword hkeyword hfound => ?_
  obtain ⟨letter, hletter, hnot⟩ := List.any_eq_true.mp (hfirst keyword hkeyword)
  rw [Bool.not_eq_true', ← Bool.not_eq_true, List.contains_iff_mem] at hnot
  have hmem := ((Chars.hasInfix_iff _ _).mp hfound).subset hletter
  rw [upper, String.toList_ofList, List.mem_map] at hmem
  obtain ⟨c, hc, rfl⟩ := hmem
  refine hnot (List.mem_map_of_mem ?_)
  rcases h c hc with rfl | hdigit
  · exact List.mem_cons_self
  · exact List.mem_cons_of_mem _ (mem_asciiDigits hdigit)

namespace FusedSize

variable {raw digits : String} {letter : Char} (h : FusedSize raw digits letter) {level : Level}
  {line : Line}

include h

section

variable (hfixed : line.raw = realign raw digits letter)

include hfixed

theorem fusedSize?_realign : fusedSize? line = none := by
  unfold fusedSize?
  rw [hfixed, h.extract?_toLength_realign]
  dsimp only
  rw [splitFused?_of_allDigits h.allDigits]

theorem dataType?_realign : dataType? line = none := by
  -- the letter of a data type is one in upper case, too
  have htypes : dataTypeLetters.all (fun c => dataTypeLetters.contains c.toUpper) = true := by
    decide
  unfold dataType?
  rw [hfixed, show Field.dataType.start = 39 from rfl, h.charAt?_dataType_realign]
  dsimp only
  rw [List.all_eq_true.mp htypes _ h.dataType, Bool.or_true]
  rfl

theorem sizeField?_realign : sizeField? line = none := by
  have hdigits : RpgLint.allDigits digits = true := List.all_eq_true.mpr h.allDigits
  unfold sizeField?
  rw [hfixed, h.extract?_toLength_realign]
  dsimp only
  rw [hdigits]
  split <;> rfl

theorem keywordBleed?_realign : keywordBleed? line = none := by
  have hstray : strayKeyword? (realign raw digits letter) = none := by
    refine strayKeyword?_eq_none fun c hc => ?_
    rw [h.text_toLength_realign, padLeft, String.toList_ofList, List.mem_append] at hc
    exact hc.imp List.eq_of_mem_replicate (h.allDigits c)
  unfold keywordBleed?
  rw [hfixed, hstray]
  split <;> rfl

/-- The size and the data type of the realigned line are right. -/
theorem mem_checkFields_realign {issue : Issue} :
    issue ∈ checkFields level line ↔ issue ∈ checkOtherFields level line := by
  rw [mem_checkFields_iff, h.fusedSize?_realign hfixed, h.dataType?_realign hfixed,
    h.sizeField?_realign hfixed, h.keywordBleed?_realign hfixed]
  simp

/-- Apart from the order of the positions, the other fields are found to be as they were. -/
theorem headline_mem_checkOtherFields_realign {other : Line} (hnumber : line.number = other.number)
    (hraw : other.raw = raw) {said : Headline}
    (hsaid : said ∈ headlines (checkOtherFields level line)) :
    said ∈ headlines (positionOrder? line).toList ∨
      said ∈ headlines (checkOtherFields level other) := by
  -- these fields stand in front of the size, and the decimals behind the data type
  have hagree : AgreeBefore 32 line.raw other.raw := by
    rw [hfixed, hraw]
    exact h.agreeBefore_realign
  have hdecimals : Field.decimalPositions.extract? line.raw =
      Field.decimalPositions.extract? other.raw := by
    rw [hfixed, hraw]
    exact h.extract?_realign_behind (by decide)
  have hfront : 25 ≤ 32 := by decide
  rw [checkOtherFields] at hsaid ⊢
  simp only [headlines_append, mem_headlines_gate, headlines_toList, List.mem_append,
    declarationType?_of_agree hnumber hagree hfront,
    misplacedDeclaration?_of_agree hnumber hagree hfront,
    trailingPeriod?_of_agree hnumber hagree hfront, namePosition?_of_agree hnumber hagree hfront,
    decimalPositions?_of_extract? hnumber hdecimals] at hsaid ⊢
  grind

end

/-- **A realigned line is classified like the line**, and its fields are checked as well. -/
theorem classify_realign (number : Nat) (hcomment : (Line.classify number raw).isComment = false)
    (hbegins : (Line.classify number raw).continuation = none) (hname : continuesName raw = false) :
    (Line.classify number (realign raw digits letter)).spec = (Line.classify number raw).spec ∧
      (Line.classify number (realign raw digits letter)).isComment = false ∧
      (Line.classify number (realign raw digits letter)).continuation = none ∧
      continuesName (realign raw digits letter) = false := by
  -- column 7 is in front of what is rewritten
  have hcolumn : charAt? (realign raw digits letter) 6 = charAt? raw 6 :=
    h.agreeBefore_realign.charAt?_eq (by decide)
  rw [Line.isComment_classify] at hcomment
  rw [Line.continuation_classify] at hbegins
  rw [Line.spec_classify, Line.spec_classify, Line.isComment_classify, Line.continuation_classify,
    hcolumn, h.detectSpec_realign, h.detectContinuation?_realign]
  exact ⟨rfl, hcomment, hbegins, h.continuesName_realign hname⟩

end FusedSize

/-! ### Soundness -/

/-- Fields that a correction leaves alone. -/
def keptFields : List Span :=
  [Field.definitionName, Field.declarationType, Field.fromPosition, Field.decimalPositions,
    Field.definitionKeywords]

/-- A record with the digits as its size and the letter, in upper case, as its data type. -/
def resized (digits : String) (letter : Char) (record : List (String × Option String)) :
    List (String × Option String) :=
  record.map fun (name, value) =>
    if name = "to_length" then (name, some digits)
    else if name = "data_type" then (name, some (String.ofList [letter.toUpper]))
    else (name, value)

/-- Rules on a size or a data type that is not in its columns. -/
def shiftRules : List String :=
  ["D_SPEC_COLUMN_SHIFT", "D_SPEC_SIZE_FIELD", "D_SPEC_POINTER_POSITION", "D_SPEC_DATATYPE"]

/-- The corrected line is the line with the digits and the letter in the columns of the size and the
data type, and nothing else is changed by it, in the text of the line and in what is read of it and
found in it. -/
structure Corrects (number : Nat) (raw digits : String) (letter : Char) (fixed : String) :
    Prop where
  /-- It reaches the end of the decimal positions. -/
  length_eq : charLength fixed = max (charLength raw) 42
  /-- Nothing changes in front of the size. -/
  front_eq : ∀ i < 32, charAt? fixed i = charAt? raw i
  /-- Nothing changes behind the data type. -/
  behind_eq : ∀ i, 40 ≤ i → i < charLength raw → charAt? fixed i = charAt? raw i
  /-- What is added there is blank. -/
  added_blank : ∀ i, 40 ≤ i → charLength raw ≤ i → i < charLength fixed → charAt? fixed i = some ' '
  /-- It is a line of the same type. -/
  spec_eq : (Line.classify number fixed).spec = (Line.classify number raw).spec
  /-- Of a definition it is a definition again, whose record differs in size and data type only. -/
  definition : (Line.classify number raw).spec = .definition →
    (Line.classify number fixed).spec = .definition ∧
      ∃ record, (Line.classify number raw).record? = some record ∧
        (Line.classify number fixed).record? = some (resized digits letter record)
  /-- It is a comment if the line is. -/
  isComment_eq : (Line.classify number fixed).isComment = (Line.classify number raw).isComment
  /-- It continues no line, as the line did not. -/
  continuation_eq : (Line.classify number fixed).continuation = none ∧
    (Line.classify number raw).continuation = none
  /-- The other fields read the same. -/
  fields_eq : ∀ span ∈ keptFields, span.extract? fixed = span.extract? raw
  /-- The size is the digits. -/
  toLength_eq : Field.toLength.extract? fixed = some digits
  /-- The data type is the letter, in upper case. -/
  dataType_eq : Field.dataType.extract? fixed = some (String.ofList [letter.toUpper])
  /-- No column shift is found in it. -/
  no_shift : ∀ level, ∀ issue ∈ checkDefinition level (Line.classify number fixed),
    issue.rule ∉ shiftRules
  /-- No other correction is proposed for it. -/
  no_correction : ∀ level, Uncorrected (checkDefinition level (Line.classify number fixed))
  /-- Whatever else is found in it was found in the line, in the same words. -/
  found_before : ∀ level, ∀ issue ∈ checkDefinition level (Line.classify number fixed),
    issue.rule = "D_SPEC_POSITION_ERROR" ∨
      ∃ old ∈ checkDefinition level (Line.classify number raw), old.headline = issue.headline

namespace FusedSize

variable {number : Nat} {raw digits : String} {letter : Char}

/-- The record of a realigned definition. -/
theorem record?_realign (h : FusedSize raw digits letter)
    (hdefinition : (Line.classify number raw).spec = .definition) :
    ∃ record, (Line.classify number raw).record? = some record ∧
      (Line.classify number (realign raw digits letter)).record? =
        some (resized digits letter record) := by
  -- a field is the size, or the data type, or has its columns on one side of the two
  have hplaces : ∀ field ∈ Field.ofDefinition,
      (field.1 = "to_length" ∧ field.2 = Field.toLength) ∨
      (field.1 = "data_type" ∧ field.2 = Field.dataType) ∨
      (field.1 ≠ "to_length" ∧ field.1 ≠ "data_type" ∧
        (field.2.stop ≤ 32 ∨ 40 ≤ field.2.start)) := by
    decide
  rw [Line.spec_classify] at hdefinition
  rw [Line.record?_classify, Line.record?_classify, h.detectSpec_realign, hdefinition]
  refine ⟨_, rfl, congrArg some ?_⟩
  rw [resized, List.map_map]
  refine List.map_congr_left fun field hfield => ?_
  obtain ⟨name, span⟩ := field
  rcases hplaces (name, span) hfield with ⟨hname, hspan⟩ | ⟨hname, hspan⟩ | ⟨hsize, htype, hside⟩
  · -- the size
    obtain rfl : name = "to_length" := hname
    obtain rfl : span = Field.toLength := hspan
    simp [h.extract?_toLength_realign]
  · -- the data type
    obtain rfl : name = "data_type" := hname
    obtain rfl : span = Field.dataType := hspan
    simp [h.extract?_dataType_realign]
  · -- a field in front of them or behind them
    have hkept : span.extract? (realign raw digits letter) = span.extract? raw :=
      hside.elim h.extract?_realign_front h.extract?_realign_behind
    have hsize : name ≠ "to_length" := hsize
    have htype : name ≠ "data_type" := htype
    simp [hkept, hsize, htype]

/-- What is found in a realigned line. -/
theorem of_mem_checkDefinition_realign (h : FusedSize raw digits letter) {level : Level}
    {line other : Line} (hfixed : line.raw = realign raw digits letter)
    (hnumber : line.number = other.number) (hraw : other.raw = raw)
    (hline : checkDefinition level line = (letterIssue? line 'D').toList ++ checkFields level line)
    (hother : checkDefinition level other =
      (letterIssue? other 'D').toList ++ checkFields level other)
    {issue : Issue} (hissue : issue ∈ checkDefinition level line) :
    issue.rule ∉ shiftRules ∧ issue.correction = none ∧
      (issue.rule = "D_SPEC_POSITION_ERROR" ∨
        ∃ old ∈ checkDefinition level other, old.headline = issue.headline) := by
  have hagree : AgreeBefore 32 line.raw other.raw := by
    rw [hfixed, hraw]
    exact h.agreeBefore_realign
  rw [hline, List.mem_append] at hissue
  rw [hother]
  rcases hissue with hletter | hfield
  · -- the letter of the type stands in front of the size
    have hrules : ∀ rule ∈ ["D_SPEC_COL6"], rule ∉ shiftRules := by decide
    have hwritten :=
      (written_letterIssue? line 'D').mono (List.Subset.refl _) (show _ ⊆ ["D_SPEC_COL6"] by decide)
    refine ⟨hrules _ (hwritten.namesOnly issue hletter),
      uncorrected_letterIssue? line 'D' issue hletter, .inr ?_⟩
    have hsaid : issue.headline ∈ headlines (letterIssue? other 'D').toList := by
      rw [headlines_toList, ← letterIssue?_of_agree hnumber hagree (by decide), ← headlines_toList]
      exact List.mem_map_of_mem hletter
    obtain ⟨old, hold, heq⟩ := List.mem_map.mp hsaid
    exact ⟨old, List.mem_append_left _ hold, heq⟩
  · -- of the other fields, only the order of the positions reads the size
    rw [h.mem_checkFields_realign hfixed] at hfield
    have hrules : ∀ rule ∈ otherFieldRules, rule ∉ shiftRules := by decide
    refine ⟨hrules _ (written_checkOtherFields.namesOnly issue hfield),
      uncorrected_checkOtherFields issue hfield, ?_⟩
    have hsaid :=
      h.headline_mem_checkOtherFields_realign hfixed hnumber hraw (List.mem_map_of_mem hfield)
    rcases hsaid with hposition | hbefore
    · obtain ⟨found, hfound, heq⟩ := List.mem_map.mp hposition
      have hrule := List.mem_singleton.mp ((written_positionOrder? line).namesOnly found hfound)
      exact .inl ((congrArg Headline.rule heq).symm.trans hrule)
    · obtain ⟨old, hold, heq⟩ := List.mem_map.mp hbefore
      exact .inr ⟨old, List.mem_append_right _ (mem_checkFields_iff.mpr (.inl hold)), heq⟩

/-- Realigning corrects a line with fields to check. -/
theorem corrects_realign (h : FusedSize raw digits letter)
    (hcomment : (Line.classify number raw).isComment = false)
    (hbegins : (Line.classify number raw).continuation = none) (hname : continuesName raw = false) :
    Corrects number raw digits letter (realign raw digits letter) := by
  obtain ⟨hspec, hcomment', hbegins', hname'⟩ := h.classify_realign number hcomment hbegins hname
  have hfound : ∀ level,
      ∀ issue ∈ checkDefinition level (Line.classify number (realign raw digits letter)),
        issue.rule ∉ shiftRules ∧ issue.correction = none ∧
          (issue.rule = "D_SPEC_POSITION_ERROR" ∨
            ∃ old ∈ checkDefinition level (Line.classify number raw),
              old.headline = issue.headline) := by
    intro level issue hissue
    refine h.of_mem_checkDefinition_realign (Line.raw_classify _ _) ?_ (Line.raw_classify _ _)
      (checkDefinition_eq_checkFields hcomment' hbegins' ?_)
      (checkDefinition_eq_checkFields hcomment hbegins ?_) hissue
    · rw [Line.number_classify, Line.number_classify]
    · rw [Line.raw_classify]
      exact hname'
    · rw [Line.raw_classify]
      exact hname
  exact {
    length_eq := h.charLength_realign
    front_eq := fun i hi => h.agreeBefore_realign.charAt?_eq hi
    behind_eq := fun i hi hin => by rw [h.charAt?_realign hi, if_pos hin]
    added_blank := fun i hi hout hin => by
      rw [h.charLength_realign] at hin
      rw [h.charAt?_realign hi, if_neg (Nat.not_lt.mpr hout), if_pos (by omega)]
    spec_eq := hspec
    definition := fun hdefinition => ⟨hspec.trans hdefinition, h.record?_realign hdefinition⟩
    isComment_eq := hcomment'.trans hcomment.symm
    continuation_eq := ⟨hbegins', hbegins⟩
    fields_eq := fun span hspan => by
      have hplaces : ∀ span ∈ keptFields, span.stop ≤ 32 ∨ 40 ≤ span.start := by decide
      exact (hplaces span hspan).elim h.extract?_realign_front h.extract?_realign_behind
    toLength_eq := h.extract?_toLength_realign
    dataType_eq := h.extract?_dataType_realign
    no_shift := fun level issue hissue => (hfound level issue hissue).1
    no_correction := fun level issue hissue => (hfound level issue hissue).2.1
    found_before := fun level issue hissue => (hfound level issue hissue).2.2 }

end FusedSize

/-- **The correction of a fused size is sound.**  A line that is proposed for a line holds the
digits and the letter of its size field in the columns of the size and the data type.  It keeps all
other columns, fields and findings, and no column shift is found in it at any level.  It keeps its
type too, and the correction of a definition is a definition with these values in its record.  The
order of the positions may be found to be wrong only now that the size is a number. -/
theorem corrects_of_mem_checkDefinition {level : Level} {number : Nat} {raw fixed : String}
    {issue : Issue} (hissue : issue ∈ checkDefinition level (Line.classify number raw))
    (hfixed : issue.correction = some fixed) :
    ∃ digits letter, (Field.toLength.extract? raw).bind splitFused? = some (digits, letter) ∧
      Corrects number raw digits letter fixed := by
  have hfused := fusedSize_of_correction hissue hfixed
  rw [Line.raw_classify] at hfused
  obtain ⟨⟨hcomment, hbegins, hname⟩, digits, letter, hsplit, hfused, rfl⟩ := hfused
  exact ⟨digits, letter, hsplit, hfused.corrects_realign hcomment hbegins hname⟩

/-- An integer of ten digits whose type stands in the size field. -/
theorem corrects_counter :
    ∃ issue ∈ checkDefinition .basic (Line.classify 1 "     Dcounter          S            10I"),
      issue.correction = some "     Dcounter          S             10I  " ∧
      Corrects 1 "     Dcounter          S            10I" "10" 'I'
        "     Dcounter          S             10I  " := by
  have hfound : ∃ issue ∈ checkDefinition .basic
      (Line.classify 1 "     Dcounter          S            10I"),
      issue.correction = some "     Dcounter          S             10I  " := by decide
  have hsize :
      (Field.toLength.extract? "     Dcounter          S            10I").bind splitFused? =
        some ("10", 'I') := by decide
  obtain ⟨issue, hissue, hfixed⟩ := hfound
  obtain ⟨digits, letter, hsplit, hcorrects⟩ := corrects_of_mem_checkDefinition hissue hfixed
  rw [hsize] at hsplit
  cases hsplit
  exact ⟨issue, hissue, hfixed, hcorrects⟩

/-- The line that is proposed for a control specification with a size fused with its data type is no
definition. -/
theorem header_correction_no_definition :
    ¬∀ (level : Level) (number : Nat) (raw fixed : String),
      (∃ issue ∈ checkDefinition level (Line.classify number raw), issue.correction = some fixed) →
        (Line.classify number fixed).spec = .definition := by
  intro hagain
  have hfound : ∃ issue ∈ checkDefinition .basic
      (Line.classify 1 "     Hcounter          S            10I"),
      issue.correction = some "     Hcounter          S             10I  " := by decide
  have hheader :
      (Line.classify 1 "     Hcounter          S             10I  ").spec = .control := by decide
  have hdefinition := hagain .basic 1 _ _ hfound
  rw [hheader] at hdefinition
  cases hdefinition

end Definition

end RpgLint
