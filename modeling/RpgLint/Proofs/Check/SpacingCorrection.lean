import RpgLint.Proofs.Check.RuleNames
import RpgLint.Proofs.Line.CodeColumns

/-!
# The correction of an unspaced file name

A file name of ten characters has to be followed by a blank, and the line that is proposed has one
put in.  All columns behind it move to the right.  The corrected line is a file description of the
same name, and its file type is blank.  What is read as its device stood one column to the left
before, so that a device which fills its field is cut off.

## Main definitions

* `NamesUnknownDevice` — the fields with a text that begins with no device.
* `SpacesFileName` — what a line and its correction have in common, and what they have not.

## Main results

* `extract?_spacedFileName` — the fields that move.
* `mem_rules_device_iff` — the lines with a finding on their device.
* `spacesFileName_of_fileNameSpacing?` — what the correction keeps and what it may break.
-/

namespace RpgLint

/-! ### Putting a blank in -/

theorem toList_spacedFileName (raw : String) :
    (spacedFileName raw).toList = raw.toList.take 16 ++ ' ' :: raw.toList.drop 16 := by
  simp only [spacedFileName, slice, sliceFrom, String.toList_append, String.toList_ofList,
    List.drop_zero, List.append_assoc]
  rfl

section

variable {raw : String} (hlong : 16 < charLength raw)

include hlong

theorem length_take_fileName : (raw.toList.take 16).length = 16 := by
  rw [List.length_take]
  exact Nat.min_eq_left (Nat.le_of_lt hlong)

/-- Nothing changes in front of the blank. -/
theorem agreeBefore_spacedFileName : AgreeBefore 16 (spacedFileName raw) raw := by
  rw [AgreeBefore, toList_spacedFileName, List.take_left' (length_take_fileName hlong)]

theorem charAt?_spacedFileName : charAt? (spacedFileName raw) 16 = some ' ' := by
  have hlength := length_take_fileName hlong
  rw [charAt?, toList_spacedFileName, List.getElem?_append_right (Nat.le_of_eq hlength), hlength]
  rfl

/-- Without the blank the line is as it was. -/
theorem eraseIdx_spacedFileName : (spacedFileName raw).toList.eraseIdx 16 = raw.toList := by
  have hlength := length_take_fileName hlong
  rw [toList_spacedFileName, List.eraseIdx_append_of_length_le (Nat.le_of_eq hlength), hlength,
    Nat.sub_self, List.eraseIdx_cons_zero, List.take_append_drop]

/-- Everything behind the blank stands one column to the right. -/
theorem extract?_spacedFileName {span : Span} (hspan : 16 ≤ span.start) :
    Span.extract? ⟨span.start + 1, span.stop + 1⟩ (spacedFileName raw) = span.extract? raw := by
  refine Span.extract?_of_drop_eq ?_ hspan
  -- the columns in front, and the blank
  have hfront : (raw.toList.take 16 ++ [' ']).length = 16 + 1 := by
    rw [List.length_append, length_take_fileName hlong]
    rfl
  rw [toList_spacedFileName, List.append_cons, List.drop_left' hfront]

/-- The file type is blank. -/
theorem fileTypeIssue?_spacedFileName {line : Line} (hraw : line.raw = spacedFileName raw) :
    fileTypeIssue? line = none := by
  have hblank : Field.fileType.isBlank (spacedFileName raw) = true := by
    obtain ⟨hlt, hat⟩ := List.getElem?_eq_some_iff.mp (charAt?_spacedFileName hlong)
    rw [Span.isBlank, isBlankText, Span.text, slice, String.toList_ofList, List.drop_take]
    rw [show Field.fileType.start = 16 from rfl, List.drop_eq_getElem_cons hlt, hat]
    rfl
  unfold fileTypeIssue?
  rw [hraw, Span.extract?_of_isBlank hblank]

/-- A spaced file name is not spaced again. -/
theorem fileNameSpacing?_spacedFileName {line : Line} (hraw : line.raw = spacedFileName raw) :
    fileNameSpacing? line = none := by
  have hcolumn : charAt? line.raw Field.fileType.start = some ' ' := by
    rw [hraw]
    exact charAt?_spacedFileName hlong
  unfold fileNameSpacing?
  rw [hcolumn, beq_self_eq_true, Bool.or_true]
  split <;> rfl

end

/-! ### Findings on the columns of a file description -/

/-- The field holds a text that does not begin with the name of a device. -/
def NamesUnknownDevice (span : Span) (raw : String) : Prop :=
  ∃ device ∈ span.extract? raw, knownDevices.any (startsWith (upper device)) = false

theorem mem_rules_deviceIssue?_iff {line : Line} :
    "F_SPEC_DEVICE" ∈ (deviceIssue? line).toList.map Issue.rule ↔
      NamesUnknownDevice Field.device line.raw := by
  unfold deviceIssue? NamesUnknownDevice
  cases Field.device.extract? line.raw with
  | none => simp
  | some device =>
    -- a device that is known is not reported on
    by_cases hknown : knownDevices.any (startsWith (upper device)) = true
    · dsimp only
      rw [if_pos hknown]
      constructor
      · intro hmem
        cases hmem
      · rintro ⟨other, hother, hunknown⟩
        rw [← Option.some.inj hother, hknown] at hunknown
        cases hunknown
    · dsimp only
      rw [if_neg hknown]
      constructor
      · exact fun _ => ⟨device, rfl, Bool.eq_false_iff.mpr hknown⟩
      · intro _
        rw [Option.toList_some, List.map_singleton, Issue.rule_atSpan]
        exact List.mem_singleton_self _

theorem NamesOnly.not_mem_rules {names : List String} {issues : List Issue}
    (h : NamesOnly names issues) {rule : String} (hrule : rule ∉ names) :
    rule ∉ issues.map Issue.rule := by
  rw [List.mem_map]
  rintro ⟨issue, hissue, rfl⟩
  exact hrule (h issue hissue)

section

variable {level : Level} {line : Line} (hspec : line.spec = .file)
  (hcomment : line.isComment = false)

include hspec hcomment

/-- The findings on the columns of a file description. -/
theorem checkLineColumns_of_file : checkLineColumns level line =
    (letterIssue? line 'F').toList ++
      (if line.isContinuation || !level.atLeastStandard then []
        else (fileTypeIssue? line).toList ++ (deviceIssue? line).toList) := by
  rw [checkLineColumns, hcomment, hspec]
  rfl

/-- The lines with a finding on their device. -/
theorem mem_rules_device_iff : "F_SPEC_DEVICE" ∈ (checkLineColumns level line).map Issue.rule ↔
    level.atLeastStandard = true ∧ line.continuation = none ∧
      NamesUnknownDevice Field.device line.raw := by
  have hletter :=
    (written_letterIssue? line 'F').namesOnly.not_mem_rules (show "F_SPEC_DEVICE" ∉ _ by decide)
  have htype :=
    (written_fileTypeIssue? line).namesOnly.not_mem_rules (show "F_SPEC_DEVICE" ∉ _ by decide)
  rw [checkLineColumns_of_file hspec hcomment, List.map_append, List.mem_append,
    or_iff_right hletter, Line.isContinuation]
  cases hstandard : level.atLeastStandard with
  | false => simp
  | true =>
    cases hcontinues : line.continuation with
    | some kind => simp
    | none =>
      rw [if_neg (by simp), List.map_append, List.mem_append, or_iff_right htype,
        mem_rules_deviceIssue?_iff]
      simp

/-- No finding is on a file type that is right. -/
theorem not_mem_rules_fileType (hnone : fileTypeIssue? line = none) :
    "F_SPEC_FILE_TYPE" ∉ (checkLineColumns level line).map Issue.rule := by
  have hletter :=
    (written_letterIssue? line 'F').namesOnly.not_mem_rules (show "F_SPEC_FILE_TYPE" ∉ _ by decide)
  have hdevice :=
    (written_deviceIssue? line).namesOnly.not_mem_rules (show "F_SPEC_FILE_TYPE" ∉ _ by decide)
  rw [checkLineColumns_of_file hspec hcomment, hnone, List.map_append, List.mem_append,
    or_iff_right hletter]
  split
  · exact List.not_mem_nil
  · rw [Option.toList_none, List.nil_append]
    exact hdevice

/-- A finding on the device that is not found on another file description which goes on likewise. -/
theorem mem_rules_device_only_iff {other : Line} (hspec' : other.spec = .file)
    (hcomment' : other.isComment = false) (hcontinues : line.continuation = other.continuation) :
    ("F_SPEC_DEVICE" ∈ (checkLineColumns level line).map Issue.rule ∧
        "F_SPEC_DEVICE" ∉ (checkLineColumns level other).map Issue.rule) ↔
      level.atLeastStandard = true ∧ other.continuation = none ∧
        NamesUnknownDevice Field.device line.raw ∧ ¬NamesUnknownDevice Field.device other.raw := by
  rw [mem_rules_device_iff hspec hcomment, mem_rules_device_iff hspec' hcomment', hcontinues]
  constructor
  · rintro ⟨⟨hstandard, hbegins, hfound⟩, hnot⟩
    exact ⟨hstandard, hbegins, hfound, fun hother => hnot ⟨hstandard, hbegins, hother⟩⟩
  · rintro ⟨hstandard, hbegins, hfound, hnot⟩
    exact ⟨⟨hstandard, hbegins, hfound⟩, fun hother => hnot hother.2.2⟩

end

/-! ### What the correction keeps -/

/-- Columns 35 to 41, which become the field of the device. -/
def columnsBeforeDevice : Span := ⟨34, 41⟩

/-- The corrected line is the line with a blank behind its file name.  It is a file description of
the same name, whose columns are as good as they were but for the device. -/
structure SpacesFileName (number : Nat) (raw fixed : String) : Prop where
  /-- Column 17 is blank. -/
  blank_eq : charAt? fixed 16 = some ' '
  /-- Without column 17 the line is as it was. -/
  erase_eq : fixed.toList.eraseIdx 16 = raw.toList
  /-- It is a file description, as the line was. -/
  spec_eq : (Line.classify number fixed).spec = .file ∧ (Line.classify number raw).spec = .file
  /-- It is a comment if the line is. -/
  isComment_eq : (Line.classify number fixed).isComment = (Line.classify number raw).isComment
  /-- It continues an earlier line if the line does. -/
  continuation_eq : (Line.classify number fixed).continuation =
    (Line.classify number raw).continuation
  /-- It has the same file name. -/
  fileName_eq : Field.fileName.extract? fixed = Field.fileName.extract? raw
  /-- No further blank is proposed. -/
  not_again : fileNameSpacing? (Line.classify number fixed) = none
  /-- There is no finding on its file type. -/
  fileType_right : ∀ level,
    "F_SPEC_FILE_TYPE" ∉ (checkLineColumns level (Line.classify number fixed)).map Issue.rule
  /-- There is a new finding on its device when the columns that become the field name no device,
  and the field named one or was blank. -/
  device_iff : ∀ level,
    ("F_SPEC_DEVICE" ∈ (checkLineColumns level (Line.classify number fixed)).map Issue.rule ∧
        "F_SPEC_DEVICE" ∉ (checkLineColumns level (Line.classify number raw)).map Issue.rule) ↔
      level.atLeastStandard = true ∧ (Line.classify number raw).continuation = none ∧
        NamesUnknownDevice columnsBeforeDevice raw ∧ ¬NamesUnknownDevice Field.device raw

/-- A line for which a blank is proposed. -/
theorem of_fileNameSpacing? {line : Line} {issue : Issue} {fixed : String}
    (hissue : fileNameSpacing? line = some issue) (hfixed : issue.correction = some fixed) :
    line.spec = .file ∧ line.isComment = false ∧ 16 < charLength line.raw ∧
      fixed = spacedFileName line.raw := by
  unfold fileNameSpacing? at hissue
  split at hissue
  · cases hissue
  · next hchecked =>
    split at hissue
    · cases hissue
    · cases hissue
      simp only [Bool.or_eq_true, not_or, bne_iff_ne, ne_eq, not_not, Bool.not_eq_true,
        decide_eq_true_eq, Nat.not_le] at hchecked
      obtain ⟨⟨hspec, hcomment⟩, hlong⟩ := hchecked
      exact ⟨hspec, hcomment, hlong, (Option.some.inj hfixed).symm⟩

/-- The blank leaves the classification of a line alone. -/
theorem classify_spacedFileName {raw : String} (hlong : 16 < charLength raw) (number : Nat)
    (hspec : (Line.classify number raw).spec = .file) :
    (Line.classify number (spacedFileName raw)).spec = .file ∧
      (Line.classify number (spacedFileName raw)).isComment = (Line.classify number raw).isComment ∧
      (Line.classify number (spacedFileName raw)).continuation =
        (Line.classify number raw).continuation := by
  have hagree := agreeBefore_spacedFileName hlong
  rw [Line.spec_classify] at hspec
  -- the letter in column 6 stands in front of the blank
  obtain ⟨letter, hat, hletter⟩ := exists_letter_of_isFixed raw (by rw [hspec]; rfl)
  have hsame := detectSpec_eq_of_agreeBefore hat (SpecType.not_isBlank_of_ofLetter? hletter)
    (by decide) hagree.symm
  have hcolumn : charAt? (spacedFileName raw) 6 = charAt? raw 6 := hagree.charAt?_eq (by decide)
  have hkey : ∀ key ∈ (SpecType.file).keyField?, key.stop ≤ 16 := by decide
  rw [Line.spec_classify, Line.isComment_classify, Line.isComment_classify,
    Line.continuation_classify, Line.continuation_classify, ← hsame, hspec, hcolumn,
    hagree.detectContinuation?_eq (by decide) hkey]
  exact ⟨rfl, rfl, rfl⟩

/-- **What the blank behind a file name keeps, and what it may break.**  The line that is proposed
for a file description is a file description of the same name, with the rest of the line one column
further to the right.  No second blank is proposed for it, and its file type is right at any level.
Its device may be found to be unknown, since it is read where the columns in front of the field have
moved. -/
theorem spacesFileName_of_fileNameSpacing? {number : Nat} {raw fixed : String} {issue : Issue}
    (hissue : fileNameSpacing? (Line.classify number raw) = some issue)
    (hfixed : issue.correction = some fixed) :
    SpacesFileName number raw fixed := by
  obtain ⟨hspec, hcomment, hlong, rfl⟩ := of_fileNameSpacing? hissue hfixed
  rw [Line.raw_classify] at hlong ⊢
  obtain ⟨hspec', hcomment', hcontinues⟩ := classify_spacedFileName hlong number hspec
  have hraw := Line.raw_classify number (spacedFileName raw)
  -- the device is read one column further to the left
  have hdevice : NamesUnknownDevice Field.device (spacedFileName raw) ↔
      NamesUnknownDevice columnsBeforeDevice raw := by
    rw [NamesUnknownDevice, NamesUnknownDevice, ← extract?_spacedFileName hlong (by decide)]
    rfl
  exact {
    blank_eq := charAt?_spacedFileName hlong
    erase_eq := eraseIdx_spacedFileName hlong
    spec_eq := ⟨hspec', hspec⟩
    isComment_eq := hcomment'
    continuation_eq := hcontinues
    fileName_eq := (agreeBefore_spacedFileName hlong).extract?_eq (by decide)
    not_again := fileNameSpacing?_spacedFileName hlong hraw
    fileType_right := fun level =>
      not_mem_rules_fileType hspec' (hcomment'.trans hcomment)
        (fileTypeIssue?_spacedFileName hlong hraw)
    device_iff := fun level => by
      rw [mem_rules_device_only_iff hspec' (hcomment'.trans hcomment) hspec hcomment hcontinues,
        hraw, Line.raw_classify, hdevice] }

/-- A file on disk, whose device leaves three columns of its field blank. -/
theorem spacesFileName_ordersFile :
    (fileNameSpacing? (Line.classify 1 "     FORDERSFILEIF   E           K DISK")).bind
        Issue.correction = some "     FORDERSFILE IF   E           K DISK" ∧
      SpacesFileName 1 "     FORDERSFILEIF   E           K DISK"
        "     FORDERSFILE IF   E           K DISK" := by
  have hproposed :
      (fileNameSpacing? (Line.classify 1 "     FORDERSFILEIF   E           K DISK")).bind
        Issue.correction = some "     FORDERSFILE IF   E           K DISK" := by decide
  obtain ⟨issue, hissue, hfixed⟩ := Option.bind_eq_some_iff.mp hproposed
  exact ⟨hproposed, spacesFileName_of_fileNameSpacing? hissue hfixed⟩

/-- A printer, whose last letter is pushed out of the field. -/
theorem spaced_device_unknown :
    ¬∀ (number : Nat) (raw fixed : String),
      (fileNameSpacing? (Line.classify number raw)).bind Issue.correction = some fixed →
        ∀ level,
          "F_SPEC_DEVICE" ∈ (checkLineColumns level (Line.classify number fixed)).map Issue.rule →
          "F_SPEC_DEVICE" ∈ (checkLineColumns level (Line.classify number raw)).map Issue.rule := by
  intro h
  have hbefore : "F_SPEC_DEVICE" ∉
      (checkLineColumns .standard
        (Line.classify 1 "     FCUSTMASTERIF   E           K PRINTER")).map Issue.rule := by
    decide
  exact hbefore
    (h 1 _ "     FCUSTMASTER IF   E           K PRINTER" (by decide) .standard (by decide))

end RpgLint
