import RpgLint.Line.Span
import RpgLint.Line.SpecType

/-!
# Fields of the specifications

Each type of specification has its own layout.  The calculation layout is the legacy one, where the
conditioning indicators and the first factor overlap in columns 12 to 17.

## Main definitions

* `Field` — the span of every field that some check or listing reads.
* `SpecType.fields?` — the fields of a type with their names, in column order.
-/

namespace RpgLint

namespace Field

/-- The specification letter, column 6. -/
def specLetter : Span := .single 5

/-- Keywords of a control specification. -/
def controlKeyword : Span := ⟨6, 80⟩

/-- Name of a file. -/
def fileName : Span := ⟨6, 16⟩

/-- Type of a file: input, output, update or combined. -/
def fileType : Span := .single 16

/-- Device of a file. -/
def device : Span := ⟨35, 42⟩

/-- Name in a definition. -/
def definitionName : Span := ⟨6, 21⟩

/-- Declaration type of a definition. -/
def declarationType : Span := ⟨23, 25⟩

/-- From position of a definition. -/
def fromPosition : Span := ⟨25, 32⟩

/-- Length or to position of a definition. -/
def toLength : Span := ⟨32, 39⟩

/-- Data type of a definition. -/
def dataType : Span := .single 39

/-- Number of decimal positions of a definition. -/
def decimalPositions : Span := ⟨40, 42⟩

/-- Keywords of a definition. -/
def definitionKeywords : Span := ⟨42, 80⟩

/-- Name of a procedure. -/
def procedureName : Span := ⟨6, 21⟩

/-- The letter that begins or ends a procedure. -/
def beginEnd : Span := .single 23

/-- First factor of a calculation. -/
def factor1 : Span := ⟨11, 25⟩

/-- Operation code of a calculation. -/
def opcode : Span := ⟨25, 35⟩

/-- Fields of a file description. -/
def ofFile : List (String × Span) :=
  [("file_name", fileName), ("file_type", fileType), ("file_designation", .single 17),
    ("end_of_file", .single 18), ("file_addition", .single 19), ("sequence", .single 20),
    ("file_format", .single 21), ("record_length", ⟨22, 27⟩), ("limits", .single 27),
    ("length_of_key", ⟨28, 33⟩), ("record_address_type", .single 33),
    ("file_organization", .single 34), ("device", device), ("keywords", ⟨43, 80⟩)]

/-- Fields of a definition. -/
def ofDefinition : List (String × Span) :=
  [("name", definitionName), ("external_description", .single 21),
    ("data_structure_type", .single 22), ("declaration_type", declarationType),
    ("from_position", fromPosition), ("to_length", toLength), ("data_type", dataType),
    ("decimal_positions", decimalPositions), ("keywords", definitionKeywords)]

/-- Fields of a procedure boundary. -/
def ofProcedure : List (String × Span) :=
  [("name", procedureName), ("begin_end", beginEnd), ("keywords", ⟨43, 80⟩)]

/-- Fields of a calculation. -/
def ofCalculation : List (String × Span) :=
  [("control_level", ⟨6, 8⟩), ("indicators", ⟨8, 17⟩), ("factor1", factor1), ("opcode", opcode),
    ("factor2", ⟨35, 49⟩), ("result", ⟨49, 63⟩), ("result_indicators", ⟨70, 76⟩)]

end Field

namespace SpecType

/-- The fields of a type with their names; `none` for a type whose lines are not cut into fields. -/
def fields? : SpecType → Option (List (String × Span))
  | control => some [("keyword", Field.controlKeyword)]
  | file => some Field.ofFile
  | definition => some Field.ofDefinition
  | procedure => some Field.ofProcedure
  | calculation => some Field.ofCalculation
  | input | output | free | comment | unknown => none

/-- The field whose blankness makes a line of the type a continuation. -/
def keyField? : SpecType → Option Span
  | file | input | output => some Field.fileName
  | definition => some Field.definitionName
  | procedure => some Field.procedureName
  | calculation => some Field.factor1
  | control | free | comment | unknown => none

end SpecType

end RpgLint
