import RpgLint.Check.Issue
import RpgLint.Check.Level
import RpgLint.Line.Directive
import RpgLint.Text.Characters

/-!
# Names

Names of variables, procedures and files are checked for characters that a compiler rejects and, at
higher levels, for words that say little.

## Main definitions

* `nameIn?` — the name in a field, which may run past it when it goes on in the next line.
* `checkVariableName`, `checkProcedureName`, `checkFileName` — the findings on one name.
* `checkNames` — the findings on the names of a source.
-/

namespace RpgLint

/-- The name that begins in a field, without the three periods that continue it.  A name that goes
on in the next line may run up to column 80. -/
def nameIn? (span : Span) (raw : String) : Option String :=
  let written :=
    if continuesName raw then some (trim (sliceFrom (codeArea raw) span.start))
    else span.extract? raw
  match written with
  | none => none
  | some text =>
    let stem :=
      if endsWith text "..." then String.ofList text.toList.dropLast.dropLast.dropLast else text
    let name := trimEnd stem
    if name.isEmpty then none else some name

namespace Name

/-- The characters that names may hold. -/
def admits (c : Char) : Bool :=
  isAsciiLetter c || isAsciiDigit c || ['_', '#', '@', '$'].contains c

/-- Some character does not belong in a name. -/
def hasInvalid (name : String) : Bool := name.toList.any fun c => !admits c

/-- The name begins with a digit. -/
def startsWithDigit (name : String) : Bool := (name.toList.head?.map isAsciiDigit).getD false

/-- Names of one letter that are usual in loops. -/
def loopVariables : List String := ["I", "J", "K", "X", "Y", "Z"]

/-- Words of the language that are no names. -/
def reservedWords : List String :=
  ["IF", "ELSE", "ENDIF", "DO", "ENDDO", "FOR", "ENDFOR", "SELECT", "WHEN", "OTHER", "ENDSL",
    "DOU", "DOW"]

/-- Words that say nothing about what a variable holds. -/
def genericWords : List String := ["TEMP", "TMP", "VAR", "DATA", "VALUE", "X", "Y", "Z"]

/-- A word that says nothing, with a number or without. -/
def isGeneric (name : String) : Bool :=
  genericWords.contains (upper (String.ofList (Chars.dropEnd isDecimalDigit name.toList)))

/-- Verbs that a procedure's name may begin with. -/
def verbs : List String :=
  ["get", "set", "calc", "calculate", "check", "validate", "process", "update", "delete", "create",
    "read", "write", "load", "save", "init", "initialize", "open", "close", "add", "remove", "find",
    "search", "format", "parse", "build", "generate", "convert", "transform"]

/-- The name begins with a verb. -/
def startsWithVerb (name : String) : Bool := verbs.any (startsWith (lowerWord name))

/-- The first character and the others each satisfy a condition. -/
def shaped (first other : Char → Bool) (name : String) : Bool :=
  match name.toList with
  | [] => false
  | c :: cs => first c && cs.all other

/-- The name is in camel case, Pascal case, snake case or capitals. -/
def hasCaseStyle (name : String) : Bool :=
  let wordPart := fun c => isAsciiLetter c || isAsciiDigit c
  shaped isAsciiLower wordPart name || shaped isAsciiUpper wordPart name ||
    shaped isAsciiLower (fun c => isAsciiLower c || isAsciiDigit c || c == '_') name ||
    shaped isAsciiUpper (fun c => isAsciiUpper c || isAsciiDigit c || c == '_') name

/-- The greatest recommended length. -/
def recommendedLength : Nat := 15

end Name

/-- A finding on the name in a field of a line. -/
def nameIssue (line : Line) (span : Span) (severity : Severity) (rule message : String)
    (description suggestion : Option String) : Issue :=
  Issue.atSpan span
    { severity := severity
      category := .naming
      line := line.number
      rule := rule
      message := message
      description := description
      suggestion := suggestion }

/-- The findings on the name of a variable. -/
def checkVariableName (level : Level) (line : Line) (name : String) : List Issue :=
  let issue := nameIssue line Field.definitionName
  let length := charLength name
  (if length == 1 && !Name.loopVariables.contains (upper name) then
    [issue .warning "VAR_NAME_TOO_SHORT" s!"Variable name '{name}' is too short" none
      (some "Use a name that says what the variable holds, e.g. counter or total")]
  else []) ++
  (if Name.hasInvalid name then
    [issue .error "VAR_NAME_INVALID_CHARS" s!"Variable name '{name}' contains invalid characters"
      (some "Names may use letters, digits, _, #, @ and $ only.") none]
  else []) ++
  (if Name.startsWithDigit name then
    [issue .error "VAR_NAME_STARTS_WITH_DIGIT" s!"Variable name '{name}' starts with a digit"
      none none]
  else []) ++
  (if level.isStrict && Name.reservedWords.contains (upper name) then
    [issue .error "VAR_NAME_RESERVED" s!"Variable name '{name}' is a reserved word" none none]
  else []) ++
  (if level.atLeastStandard && Name.isGeneric name then
    [issue .info "VAR_NAME_GENERIC" s!"Variable name '{name}' is too generic" none
      (some "Name the variable after its content, e.g. customerName")]
  else []) ++
  (if level.isStrict && Name.recommendedLength < length then
    [issue .info "VAR_NAME_TOO_LONG"
      s!"Variable name '{name}' may be too long ({length} characters)" none none]
  else [])

/-- The findings on the name of a procedure. -/
def checkProcedureName (level : Level) (line : Line) (name : String) : List Issue :=
  let issue := nameIssue line Field.procedureName
  (if Name.hasInvalid name then
    [issue .error "PROC_NAME_INVALID_CHARS"
      s!"Procedure name '{name}' contains invalid characters" none none]
  else []) ++
  (if Name.startsWithDigit name then
    [issue .error "PROC_NAME_STARTS_WITH_DIGIT" s!"Procedure name '{name}' starts with a digit"
      none none]
  else []) ++
  (if 3 < charLength name && !Name.startsWithVerb name then
    [issue .info "PROC_NAME_VERB_PREFIX" s!"Procedure name '{name}' should start with a verb" none
      (some "Start with a verb such as get, set, calc, check or process")]
  else []) ++
  (if level.isStrict && 1 < charLength name && !Name.hasCaseStyle name then
    [issue .info "PROC_NAME_CASE_STYLE" s!"Procedure name '{name}' mixes naming styles" none
      (some "Use camelCase, PascalCase or snake_case, e.g. getUserData")]
  else [])

/-- The findings on the name of a file. -/
def checkFileName (line : Line) (name : String) : List Issue :=
  if Name.hasInvalid name then
    [nameIssue line Field.fileName .error "FILE_NAME_INVALID_CHARS"
      s!"File name '{name}' contains invalid characters" none none]
  else []

/-- The line's field in column 24 holds the letter that begins a procedure. -/
def Line.hasBeginLetter (line : Line) : Bool :=
  match line.field? .procedure Field.beginEnd with
  | some letter => upper letter == "B"
  | none => false

/-- The findings on the name that a line introduces. -/
def checkLineName (level : Level) (line : Line) : List Issue :=
  if line.isComment then []
  else match line.spec with
    | .definition =>
      ((nameIn? Field.definitionName line.raw).map (checkVariableName level line)).getD []
    | .procedure =>
      if level.atLeastStandard && line.hasBeginLetter then
        ((nameIn? Field.procedureName line.raw).map (checkProcedureName level line)).getD []
      else []
    | .file =>
      if level.isStrict then
        ((nameIn? Field.fileName line.raw).map (checkFileName line)).getD []
      else []
    | _ => []

/-- The findings on the names of a source. -/
def checkNames (level : Level) (lines : List Line) : List Issue :=
  lines.flatMap (checkLineName level)

end RpgLint
