import RpgLint.Text.Characters

/-!
# Column positions

The fields of a fixed-form line stand at fixed positions.  Positions are counted in characters from
zero, columns in characters from one, so that no position ever falls inside a character.

## Main definitions

* `charLength`, `charAt?`, `slice`, `sliceFrom` — a line seen as a row of characters.
* `Span` — the positions of one field.
* `Span.extract?` — the field without the blanks around it, if anything is left.
-/

namespace RpgLint

/-- Length of a line in characters. -/
def charLength (line : String) : Nat := line.toList.length

/-- The character at a position. -/
def charAt? (line : String) (position : Nat) : Option Char := line.toList[position]?

/-- The characters from position `start` up to but not including `stop`, as far as the line goes. -/
def slice (line : String) (start stop : Nat) : String :=
  String.ofList ((line.toList.take stop).drop start)

/-- The characters from position `start` to the end of the line. -/
def sliceFrom (line : String) (start : Nat) : String := String.ofList (line.toList.drop start)

/-- The positions of a field: from `start` up to but not including `stop`. -/
structure Span where
  /-- Position of the first character. -/
  start : Nat
  /-- Position after the last character. -/
  stop : Nat
  deriving DecidableEq, Repr

namespace Span

/-- A field of one character. -/
def single (position : Nat) : Span := ⟨position, position + 1⟩

/-- The text of the field, as far as the line goes. -/
def text (span : Span) (line : String) : String := slice line span.start span.stop

/-- The text of the field without the blanks around it; `none` when the field is blank or the line
ends before it. -/
def extract? (span : Span) (line : String) : Option String :=
  let value := trim (span.text line)
  if value.isEmpty then none else some value

/-- The field holds blanks only, or the line ends before it. -/
def isBlank (span : Span) (line : String) : Bool := isBlankText (span.text line)

/-- The line is long enough to hold the whole field. -/
def fits (span : Span) (line : String) : Bool := span.stop ≤ charLength line

/-- The first column of the field. -/
def firstColumn (span : Span) : Nat := span.start + 1

/-- The last column of the field. -/
def lastColumn (span : Span) : Nat := span.stop

end Span

end RpgLint
