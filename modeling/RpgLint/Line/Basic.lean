import RpgLint.Line.Field
import RpgLint.Text.Letters

/-!
# Classified lines

A member is read line by line, and each line is classified on its own by its first characters.

## Main definitions

* `Line` — one line with its number, its kind, and how it continues an earlier line.
* `Line.classify` — the classification of one line.
* `Line.record?` — the values of the fields of a line.
* `classify` — the lines of a source text.
* `Line.isCode`, `Line.continuesStatement` — what the checks ask of a line.
-/

namespace RpgLint

/-- How a line is recognised as the continuation of an earlier one. -/
inductive Continuation
  /-- Column 7 holds `-` or `+`. -/
  | marker
  /-- The key field of the specification type is blank. -/
  | blankField
  deriving DecidableEq, Repr

/-- One physical line of a source member. -/
structure Line where
  /-- Number of the line, counted from one. -/
  number : Nat
  /-- The text of the line. -/
  raw : String
  /-- The kind of the line. -/
  spec : SpecType
  /-- Column 7 holds an asterisk. -/
  isComment : Bool
  /-- How the line continues an earlier one. -/
  continuation : Option Continuation
  deriving DecidableEq, Repr

/-- The kind of a line: the sentinel `**FREE` first, then column 6. -/
def detectSpec (raw : String) : SpecType :=
  if startsWith (trim raw) "**FREE" then .free
  else match charAt? raw Field.specLetter.start with
    | none => .unknown
    | some '*' => .comment
    | some letter => (SpecType.ofLetter? letter).getD .unknown

/-- How a line of the given kind continues an earlier one: by a marker in column 7, or by a key
field that the line reaches and leaves blank. -/
def detectContinuation? (spec : SpecType) (raw : String) : Option Continuation :=
  if !spec.isFixed then none
  else if charAt? raw 6 == some '-' || charAt? raw 6 == some '+' then some .marker
  else match spec.keyField? with
    | some key => if key.fits raw && key.isBlank raw then some .blankField else none
    | none => none

namespace Line

/-- The classification of one line. -/
def classify (number : Nat) (raw : String) : Line :=
  let spec := detectSpec raw
  { number := number
    raw := raw
    spec := spec
    isComment := charAt? raw 6 == some '*'
    continuation := detectContinuation? spec raw }

/-- The text without the blanks around it. -/
def trimmed (line : Line) : String := trim line.raw

/-- The values of the fields that lines of its type have, with their names; `none` for a line that
is not cut into fields. -/
def record? (line : Line) : Option (List (String × Option String)) :=
  line.spec.fields?.map fun fields => fields.map fun (name, span) => (name, span.extract? line.raw)

/-- The line continues an earlier one, in either way. -/
def isContinuation (line : Line) : Bool := line.continuation.isSome

/-- The line continues an earlier one by a marker in column 7. -/
def hasMarker (line : Line) : Bool := line.continuation == some .marker

/-- The line belongs to a statement begun on an earlier line.  A calculation with a blank first
factor is a calculation of its own, so that among calculations only a marker counts. -/
def continuesStatement (line : Line) : Bool :=
  match line.continuation with
  | some .marker => true
  -- a calculation without a first factor stands on its own
  | some .blankField => line.spec != .calculation
  | none => false

/-- The line holds blanks only. -/
def isBlank (line : Line) : Bool := line.trimmed.isEmpty

/-- Length in characters. -/
def length (line : Line) : Nat := charLength line.raw

/-- The line is a specification of a fixed type and not a comment. -/
def isCode (line : Line) : Bool :=
  !line.isComment && !(line.spec == .unknown || line.spec == .free || line.spec == .comment)

/-- The line is of a fixed type and not marked as a comment in column 7. -/
def isFixedCode (line : Line) : Bool := line.spec.isFixed && !line.isComment

/-- The text of a field, for a line of the type that has the field. -/
def field? (line : Line) (spec : SpecType) (span : Span) : Option String :=
  if line.spec = spec then span.extract? line.raw else none

/-- The operation code of a calculation. -/
def opcode? (line : Line) : Option String := line.field? .calculation Field.opcode

end Line

/-- The lines of a source text, numbered from one.  Lines are separated by line feeds, and carriage
returns at the end of a line are dropped. -/
def classify (source : String) : List Line :=
  (Chars.split '\n' source.toList).mapIdx fun index cs =>
    Line.classify (index + 1) (String.ofList (Chars.dropEnd (· == '\r') cs))

end RpgLint
