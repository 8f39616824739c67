import RpgLint.Check.Issue
import RpgLint.Check.Level
import RpgLint.Line.Directive

/-!
# Shifted definition lines

A single blank inserted or deleted moves all later fields of a definition, and the compiler's
messages then point far away from the cause.  The checks here look for the traces of such a shift: a
declaration type, a size or a keyword in columns where it does not belong.  Where a size is fused
with its data type, a realigned line is proposed.

## Main definitions

* `checkDefinition` — the findings on one definition line, in a fixed order.
* `realign` — the line with a size and its data type put in their columns.
* `checkDefinitions` — the findings on the definition lines of a source.
-/

namespace RpgLint

namespace Definition

/-- The declaration types. -/
def declarationTypes : List String := ["PR", "PI", "DS", "S", "C", "E"]

/-- The declaration types that are recognised when they begin two columns early. -/
def misplacedTypes : List String := ["DS", "PR", "PI"]

/-- The letters that name a data type. -/
def dataTypeLetters : List Char := "ABCDFGINOPSTUZ*".toList

/-- Keywords that may begin a definition without a name. -/
def namelessKeywords : List String :=
  ["TEMPLATE", "LIKEDS", "LIKE", "EXTPROC", "EXTPGM", "BASED", "QUALIFIED"]

/-- Keywords that betray a shift when they appear in the size field. -/
def shiftKeywords : List String :=
  ["LIKEDS", "LIKE", "CONST", "VARYING", "VALUE", "INZ", "DIM", "EXTPROC", "EXTPGM", "OVERLAY",
    "BASED", "TEMPLATE", "QUALIFIED", "NOOPT", "STATIC", "DTAARA", "PREFIX", "EXPORT", "IMPORT",
    "ALIGN", "OPTIONS", "ASCEND", "DESCEND", "CTDATA"]

/-- Columns 22 and 23, where a declaration type lands after a shift. -/
def shiftedDeclaration : Span := ⟨21, 23⟩

/-- A definition without a name is right for a declaration, and where a keyword begins the line. -/
def mayLackName (raw : String) : Bool :=
  (Field.declarationType.extract? raw).isSome ||
    namelessKeywords.any
      (startsWith (upper (trim (sliceFrom raw Field.definitionKeywords.start))))

/-- The finding on a definition that lost its name: anything after column 21 counts. -/
def missingName? (line : Line) : Option Issue :=
  if isBlankText (sliceFrom line.raw Field.definitionName.stop) || mayLackName line.raw then none
  else some (Issue.atSpan Field.definitionName
    { severity := .error
      category := .structural
      line := line.number
      rule := "D_SPEC_MISSING_NAME"
      message := "The name (columns 7-21) is blank but the definition fields are filled"
      description :=
        some ("A definition needs a name. Only TEMPLATE lines, prototypes and keyword " ++
        "continuation lines may leave it blank.")
      suggestion := some "Put the variable or data structure name in columns 7-21"
      snippet := some line.raw })

/-- The number in a field that holds digits only. -/
def position? (span : Span) (raw : String) : Option Nat :=
  match span.extract? raw with
  | none => none
  | some value => if allDigits value then some (decimalValue value) else none

/-- The finding on a from position behind the to position. -/
def positionOrder? (line : Line) : Option Issue :=
  if !Field.toLength.fits line.raw then none
  else match position? Field.fromPosition line.raw, position? Field.toLength line.raw with
    | some first, some last =>
      if first ≤ last then none
      else some
        { severity := .error
          category := .structural
          line := line.number
          rule := "D_SPEC_POSITION_ERROR"
          message := s!"From position ({first}) is greater than to position ({last})"
          column := some Field.fromPosition.firstColumn
          endColumn := some Field.toLength.lastColumn
          description :=
            some "The from position (26-32) must not exceed the to position (33-39)."
          suggestion := some "Check the from and to values; a shifted line often swaps them"
          snippet := some line.raw }
    | _, _ => none

/-- The finding on an unknown declaration type. -/
def declarationType? (line : Line) : Option Issue :=
  if !Field.declarationType.fits line.raw then none
  else match Field.declarationType.extract? line.raw with
    | none => none
    | some declared =>
      if declarationTypes.contains (upper declared) then none
      else some (Issue.atSpan Field.declarationType
        { severity := .error
          category := .structural
          line := line.number
          rule := "D_SPEC_DECL_TYPE"
          message := s!"Invalid declaration type '{declared}' in columns 24-25"
          description := some "The declaration type must be one of PR, PI, DS, S, C or E."
          suggestion := some "Check whether the line is shifted left or right"
          snippet := some line.raw })

/-- A declaration type of two letters in columns 22 and 23, with columns 24 and 25 blank. -/
def longFormMisplaced (raw : String) : Bool :=
  misplacedTypes.contains (upper (trim (shiftedDeclaration.text raw))) &&
    Field.declarationType.isBlank raw

/-- A declaration type of one letter in column 22, with the next two columns blank. -/
def shortFormMisplaced (raw : String) : Bool :=
  (match charAt? raw 21 with
    | some c => c.toUpper == 'S' || c.toUpper == 'C'
    | none => false) &&
    charAt? raw 22 == some ' ' && (charAt? raw 23).getD ' ' == ' '

/-- The finding on a declaration type that begins in column 22. -/
def misplacedDeclaration? (line : Line) : Option Issue :=
  if longFormMisplaced line.raw || shortFormMisplaced line.raw then
    let found := trim (shiftedDeclaration.text line.raw)
    some
      { severity := .error
        category := .structural
        line := line.number
        rule := "D_SPEC_DECL_TYPE_MISPLACED"
        message := s!"Declaration type '{found}' starts in column 22 instead of column 24"
        column := some shiftedDeclaration.firstColumn
        endColumn := some Field.declarationType.lastColumn
        description := some "The declaration type belongs in columns 24-25."
        suggestion := some "Move the declaration type two columns to the right"
        snippet := some line.raw }
  else none

/-- The finding on a name that ends with a period. -/
def trailingPeriodIssue (line : Line) (name : String) : Issue :=
  Issue.atSpan Field.definitionName
    { severity := .error
      category := .syntactic
      line := line.number
      rule := "D_SPEC_TRAILING_PERIOD"
      message := s!"Name '{name}' ends with a period"
      description :=
        some ("A single trailing period is not valid in a name; only '...' continues " ++
        "a long name.")
      suggestion :=
        some "Remove the period, or use '...' to continue the name on the next line"
      snippet := some line.raw }

/-- The finding on a name field that ends with a period but not with three. -/
def trailingPeriod? (line : Line) : Option Issue :=
  let name := trimEnd (Field.definitionName.text line.raw)
  if endsWith name "." && !endsWith name "..." then
    some (trailingPeriodIssue line (trimStart name))
  else none

/-- The code area in front of the three periods that continue a long name. -/
def nameBeforeMarker? (raw : String) : Option String :=
  if continuesName raw then some (String.ofList ((codeArea raw).toList.dropLast.dropLast.dropLast))
  else none

/-- The finding on a period in front of the three that continue a long name. -/
def periodBeforeMarker? (line : Line) : Option Issue :=
  match nameBeforeMarker? line.raw with
  | none => none
  | some area =>
    let name := trim (sliceFrom area Field.definitionName.start)
    if endsWith name "." then some (trailingPeriodIssue line name) else none

/-- The finding on a character in column 40 that names no data type. -/
def dataType? (line : Line) : Option Issue :=
  match charAt? line.raw Field.dataType.start with
  | none => none
  | some letter =>
    if RpgLint.isBlank letter || dataTypeLetters.contains letter.toUpper then none
    else some (Issue.atSpan Field.dataType
      { severity := .error
        category := .structural
        line := line.number
        rule := "D_SPEC_DATATYPE"
        message := s!"Invalid data type '{letter}' in column 40"
        description :=
          some "Column 40 holds a single data type letter (A, P, S, I, ...) or blank."
        suggestion :=
          some "A letter in column 40 that is not a type usually means the line shifted"
        snippet := some line.raw })

/-- The finding on an asterisk in column 39: a pointer that is one column early. -/
def pointerIssue (line : Line) : Issue :=
  Issue.atSpan Field.toLength
    { severity := .error
      category := .structural
      line := line.number
      rule := "D_SPEC_POINTER_POSITION"
      message := "Pointer type '*' is in column 39 instead of column 40"
      description := some "A pointer is declared with '*' in the data type column (40)."
      suggestion := some "Move '*' one column to the right"
      snippet := some line.raw }

/-- The finding on a size that is no number. -/
def sizeIssue (line : Line) (size : String) : Issue :=
  Issue.atSpan Field.toLength
    { severity := .error
      category := .structural
      line := line.number
      rule := "D_SPEC_SIZE_FIELD"
      message := s!"Size field (columns 33-39) must be numeric, found '{size}'"
      description :=
        some "The length/to-position field holds digits only, right-justified."
      suggestion := some "Check the line for a column shift"
      snippet := some line.raw }

/-- The finding on a size field that does not hold a number.  A lone asterisk counts only in column
39. -/
def sizeField? (line : Line) : Option Issue :=
  if !Field.toLength.fits line.raw then none
  else match Field.toLength.extract? line.raw with
    | none => none
    | some size =>
      if allDigits size then none
      -- elsewhere in the field a lone asterisk is no shifted pointer
      else if size = "*" then
        if charAt? line.raw (Field.toLength.stop - 1) = some '*' then some (pointerIssue line)
        else none
      else some (sizeIssue line size)

/-- The greatest number of decimal positions. -/
def maxDecimals : Nat := 63

/-- The finding on decimal positions that are no number up to the greatest. -/
def decimalPositions? (line : Line) : Option Issue :=
  match Field.decimalPositions.extract? line.raw with
  | none => none
  | some decimals =>
    if allDigits decimals && decimalValue decimals ≤ maxDecimals then none
    else some (Issue.atSpan Field.decimalPositions
      { severity := .warning
        category := .structural
        line := line.number
        rule := "D_SPEC_DECIMAL"
        message := s!"Invalid decimal positions '{decimals}' in columns 41-42"
        description := some s!"Decimal positions must be a number from 0 to {maxDecimals}."
        suggestion := some "Right-justify the decimal count in columns 41-42"
        snippet := some line.raw })

/-- The first seven letters of a keyword: as many as the size field can hold. -/
def keywordStart (keyword : String) : String := slice keyword 0 7

/-- The keyword that the size field holds, at least in its first letters. -/
def strayKeyword? (raw : String) : Option String :=
  let size := upper (Field.toLength.text raw)
  shiftKeywords.find? fun keyword => contains size (keywordStart keyword)

/-- The finding on a keyword in the size field of a line that reaches the keyword columns. -/
def keywordBleed? (line : Line) : Option Issue :=
  if line.length ≤ Field.definitionKeywords.start then none
  else match strayKeyword? line.raw with
    | none => none
    | some keyword =>
      some
        { severity := .error
          category := .structural
          line := line.number
          rule := "D_SPEC_COLUMN_SHIFT"
          message := s!"Keyword '{keyword}' appears in the size field (columns 33-39)"
          column := some 33
          endColumn := some 42
          description :=
            some "Keywords start in column 44; text in columns 33-39 must be a size."
          suggestion := some s!"Move '{keyword}' to the keyword area starting at column 44"
          snippet := some line.raw }

/-- The digits and the letter of a size fused with its data type, such as `10I`. -/
def splitFused? (size : String) : Option (String × Char) :=
  match size.toList.getLast? with
  | none => none
  | some letter =>
    let digits := size.toList.dropLast
    if !digits.isEmpty && digits.all isAsciiDigit && (isAsciiLetter letter || letter == '*') then
      some (String.ofList digits, letter)
    else none

/-- The width up to which a realigned line is filled with blanks. -/
def correctionWidth : Nat := 42

/-- The line with the digits right-justified in columns 33 to 39 and the upper-case letter behind
them. -/
def realign (raw digits : String) (letter : Char) : String :=
  let filled := raw.toList ++ List.replicate (correctionWidth - raw.toList.length) ' '
  String.ofList
    (filled.take Field.toLength.start ++ (padLeft 7 digits).toList ++ [letter.toUpper] ++
      filled.drop Field.dataType.stop)

/-- The finding on a size fused with its data type.  A realigned line is proposed when the letter
names a data type. -/
def fusedSize? (line : Line) : Option Issue :=
  match Field.toLength.extract? line.raw with
  | none => none
  | some size =>
    match splitFused? size with
    | none => none
    | some (digits, letter) =>
      let type := letter.toUpper
      some
        { severity := .error
          category := .structural
          line := line.number
          rule := "D_SPEC_COLUMN_SHIFT"
          message :=
            s!"Size field (columns 33-39) holds '{size}', a size fused with a data type"
          column := some 33
          endColumn := some 40
          description := some ("Columns 33-39 hold only the size and column 40 the type: " ++
            s!"right-justify '{digits}' in 33-39 and put '{type}' in column 40.")
          suggestion := some ("Realign the line: " ++
            s!"size '{digits}' in columns 33-39, data type '{type}' in column 40")
          snippet := some line.raw
          correction :=
            if dataTypeLetters.contains type then some (realign line.raw digits letter) else none }

/-- What is wrong with the column in which a name begins, and what to do. -/
def namePositionFault? (declared blankFirst : Bool) : Option (String × String) :=
  match declared, blankFirst with
  | true, true =>
    some ("Standalone definitions should start their name in column 7",
      "Remove the leading space before the name")
  | false, false =>
    some ("Subfield names should start in column 8", "Add a leading space before the subfield name")
  | _, _ => none

/-- The finding on the column in which a name begins: 7 with a declaration type, 8 without. -/
def namePosition? (line : Line) : Option Issue :=
  if !Field.declarationType.fits line.raw || Field.definitionName.isBlank line.raw then none
  else match charAt? line.raw Field.definitionName.start with
    | none => none
    | some first =>
      let declared := match Field.declarationType.extract? line.raw with
        | some type => declarationTypes.contains (upper type)
        | none => false
      match namePositionFault? declared (first == ' ') with
      | none => none
      | some (message, suggestion) =>
        some (Issue.atSpan Field.definitionName
          { severity := .warning
            category := .structural
            line := line.number
            rule := "D_SPEC_NAME_POSITION"
            message := message
            suggestion := some suggestion
            snippet := some line.raw })

/-- The findings on a line that begins a definition. -/
def checkFields (level : Level) (line : Line) : List Issue :=
  (positionOrder? line).toList ++
    (if level.atLeastStandard then
      (declarationType? line).toList ++ (misplacedDeclaration? line).toList ++
        (trailingPeriod? line).toList ++ (dataType? line).toList ++ (sizeField? line).toList ++
        (decimalPositions? line).toList ++ (keywordBleed? line).toList
    else []) ++
    (fusedSize? line).toList ++
    (if level.isStrict then (namePosition? line).toList else [])

end Definition

/-- The findings on one definition line.  A line that continues another, or whose name goes on in
the next line, has no fields to check. -/
def checkDefinition (level : Level) (line : Line) : List Issue :=
  if line.isComment then []
  else (letterIssue? line 'D').toList ++
    (match line.continuation with
      | some .marker => []
      | some .blankField => (Definition.missingName? line).toList
      | none =>
        if continuesName line.raw then
          (if level.atLeastStandard then (Definition.periodBeforeMarker? line).toList else [])
        else Definition.checkFields level line)

/-- The findings on the definition lines of a source. -/
def checkDefinitions (level : Level) (lines : List Line) : List Issue :=
  (lines.filter (·.spec == .definition)).flatMap (checkDefinition level)

end RpgLint
