import RpgLint.Check.Issue
import RpgLint.Check.Level
import RpgLint.Line.Directive

/-!
# Columns of control, file, procedure and calculation lines

Each of these types has a few columns that admit only certain letters.

## Main definitions

* `checkColumns` — the findings on the columns of a source.
* `fileNameSpacing?` — the finding `F_SPEC_SPACING`: a file name of ten characters that runs into
  column 17.
-/

namespace RpgLint

/-- The finding on a control line without keywords. -/
def controlKeywordIssue? (line : Line) : Option Issue :=
  if isBlankText (sliceFrom line.raw 6) then
    some
      { severity := .warning
        category := .structural
        line := line.number
        rule := "H_SPEC_KEYWORD"
        message := "Control specification has no keywords"
        column := some 7
        suggestion := some "Add control keywords such as DFTACTGRP(*NO) or remove the line"
        snippet := some line.raw }
  else none

/-- The letters that name a type of file. -/
def fileTypeLetters : List Char := ['I', 'O', 'U', 'C']

/-- The finding on a file type that is none of the letters. -/
def fileTypeIssue? (line : Line) : Option Issue :=
  match Field.fileType.extract? line.raw with
  | none => none
  | some fileType =>
    if fileType.toList.all fun c => fileTypeLetters.contains c.toUpper then none
    else some (Issue.atSpan Field.fileType
      { severity := .error
        category := .structural
        line := line.number
        rule := "F_SPEC_FILE_TYPE"
        message := s!"Invalid file type '{fileType}' in column 17"
        description := some "File type must be I (input), O (output), U (update) or C (combined)."
        snippet := some line.raw })

/-- The names that a device begins with. -/
def knownDevices : List String := ["DISK", "PRINTER", "WORKSTN", "SPECIAL"]

/-- The finding on an unknown device. -/
def deviceIssue? (line : Line) : Option Issue :=
  match Field.device.extract? line.raw with
  | none => none
  | some device =>
    if knownDevices.any (startsWith (upper device)) then none
    else some (Issue.atSpan Field.device
      { severity := .warning
        category := .structural
        line := line.number
        rule := "F_SPEC_DEVICE"
        message := s!"Unknown device '{device}' in columns 36-42"
        description := some "Device is usually DISK, PRINTER, WORKSTN or SPECIAL."
        snippet := some line.raw })

/-- The finding on a procedure line that neither begins nor ends a procedure. -/
def beginEndIssue? (line : Line) : Option Issue :=
  match Field.beginEnd.extract? line.raw with
  | none => none
  | some letter =>
    if ["B", "b", "E", "e"].contains letter then none
    else some (Issue.atSpan Field.beginEnd
      { severity := .error
        category := .structural
        line := line.number
        rule := "P_SPEC_BEGIN_END"
        message := s!"Column 24 must be 'B' or 'E', found '{letter}'"
        suggestion := some "Use B to begin and E to end the procedure"
        snippet := some line.raw })

/-- The findings on the columns of one line. -/
def checkLineColumns (level : Level) (line : Line) : List Issue :=
  if line.isComment then []
  else match line.spec with
    | .control =>
      (letterIssue? line 'H').toList ++
        (if level.isStrict then (controlKeywordIssue? line).toList else [])
    | .file =>
      (letterIssue? line 'F').toList ++
        (if line.isContinuation || !level.atLeastStandard then []
          else (fileTypeIssue? line).toList ++ (deviceIssue? line).toList)
    | .procedure =>
      (letterIssue? line 'P').toList ++
        (if continuesName line.raw || !level.atLeastStandard then []
          else (beginEndIssue? line).toList)
    | .calculation => (letterIssue? line 'C').toList
    | _ => []

/-- The findings on the columns of control, file, procedure and calculation lines. -/
def checkColumns (level : Level) (lines : List Line) : List Issue :=
  lines.flatMap (checkLineColumns level)

/-- The line with a blank put in at column 17. -/
def spacedFileName (raw : String) : String :=
  let split := Field.fileType.start
  slice raw 0 split ++ " " ++ sliceFrom raw split

/-- The finding on a file name that fills its field, so that column 17 has to be blank. -/
def fileNameSpacing? (line : Line) : Option Issue :=
  if line.spec != .file || line.isComment || line.length ≤ Field.fileType.start then none
  else if charLength (trim (Field.fileName.text line.raw)) != 10 ||
      charAt? line.raw Field.fileType.start == some ' ' then none
  else some
    { severity := .error
      category := .structural
      line := line.number
      rule := "F_SPEC_SPACING"
      message := "File name fills columns 7-16 and runs into column 17"
      column := some Field.fileType.firstColumn
      description := some "When the file name is ten characters long, column 17 must be blank."
      suggestion := some "Insert a blank at column 17"
      snippet := some line.raw
      correction := some (spacedFileName line.raw) }

end RpgLint
