import RpgLint.Line.Span

/-!
# Columns of a stored line

A line is stored as the bytes of its characters.  In a line of ASCII characters a position is a byte
offset already; in any other line the offset of a position is found by going over the characters.
Text is cut out of a line between two offsets, and that fails unless they are in order, in the line,
and between characters.

## Main definitions

* `Bytes.offset` — where the character at a position begins.
* `Bytes.cut?` — the text between two offsets.
* `Bytes.charLength`, `Bytes.charAt?`, `Bytes.slice?`, `Bytes.sliceFrom?` — the columns of a line,
  by its bytes.
* `Bytes.extract?`, `Bytes.isBlank?` — a field, by the bytes of the line.
-/

namespace RpgLint.Bytes

/-- The bytes of a line. -/
def bytes (line : String) : List UInt8 := line.toByteArray.data.toList

/-- Each byte of the line is a character. -/
def isAscii (line : String) : Bool := (bytes line).all (· < 128)

/-- The offsets at which characters begin, the first of them at the given one. -/
def charOffsets (offset : Nat) : List Char → List Nat
  | [] => []
  | c :: cs => offset :: charOffsets (offset + c.utf8Size) cs

/-- The offset at which the character at a position begins, or the length in bytes behind the
end. -/
def offset (line : String) (position : Nat) : Nat :=
  if isAscii line then min position line.utf8ByteSize
  else (charOffsets 0 line.toList)[position]?.getD line.utf8ByteSize

/-- The text from one offset up to but not including another; `none` when they are out of order,
behind the end of the line or inside a character. -/
def cut? (line : String) (first behind : Nat) : Option String :=
  if first ≤ behind ∧ String.Pos.Raw.IsValid line ⟨first⟩ ∧
    String.Pos.Raw.IsValid line ⟨behind⟩ then
    String.fromUTF8? (line.toByteArray.extract first behind)
  else none

/-- Length of a line in characters. -/
def charLength (line : String) : Nat :=
  if isAscii line then line.utf8ByteSize else line.toList.length

/-- The character at a position. -/
def charAt? (line : String) (position : Nat) : Option Char :=
  if isAscii line then (bytes line)[position]?.map fun b => Char.ofNat b.toNat
  else line.toList[position]?

/-- The characters from position `start` up to but not including `stop`, as far as the line goes;
`none` when the line cannot be cut there. -/
def slice? (line : String) (start stop : Nat) : Option String :=
  if stop ≤ start then some "" else cut? line (offset line start) (offset line stop)

/-- The characters from position `start` to the end of the line; `none` when the line cannot be cut
there. -/
def sliceFrom? (line : String) (start : Nat) : Option String :=
  cut? line (offset line start) line.utf8ByteSize

/-- The text of a field without the blanks around it, if anything is left; `none` when the line
cannot be cut at the field.  A line that ends before the field is not cut. -/
def extract? (span : Span) (line : String) : Option (Option String) :=
  if charLength line ≤ span.start then some none
  else (slice? line span.start span.stop).map fun text =>
    let value := trim text
    if value.isEmpty then none else some value

/-- The field holds blanks only, or the line ends before it; `none` when the line cannot be cut at
the field. -/
def isBlank? (span : Span) (line : String) : Option Bool :=
  (slice? line span.start span.stop).map fun text => (trim text).isEmpty

end RpgLint.Bytes
