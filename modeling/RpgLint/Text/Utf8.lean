/-!
# Reading bytes as text

Source members come as bytes.  Well-formed UTF-8 is read as it stands, and each longest piece that
begins a character but cannot be finished, or else each single byte, is read as one replacement
character.

## Main definitions

* `Utf8.Lead` — what the first byte of a character promises.
* `Utf8.decode` — the text with replacement characters.
* `Utf8.decode?` — the text, if the bytes are well formed.
-/

namespace RpgLint.Utf8

/-- What the first byte of a character of several bytes promises: how many bytes follow, the bounds
of the next one, and the value of the bits it holds itself. -/
structure Lead where
  /-- Bytes that follow. -/
  following : Nat
  /-- Least next byte. -/
  low : Nat
  /-- Greatest next byte. -/
  high : Nat
  /-- Value of the bits of the first byte. -/
  bits : Nat

/-- The promise of a first byte above `0x7F`.  The bounds of the second byte keep out forms that are
too long, surrogates, and values above `0x10FFFF`. -/
def Lead.of? (b : Nat) : Option Lead :=
  if 0xC2 ≤ b && b ≤ 0xDF then some ⟨1, 0x80, 0xBF, b - 0xC0⟩
  else if b == 0xE0 then some ⟨2, 0xA0, 0xBF, 0⟩
  else if b == 0xED then some ⟨2, 0x80, 0x9F, 0xD⟩
  else if 0xE1 ≤ b && b ≤ 0xEF then some ⟨2, 0x80, 0xBF, b - 0xE0⟩
  else if b == 0xF0 then some ⟨3, 0x90, 0xBF, 0⟩
  else if 0xF1 ≤ b && b ≤ 0xF3 then some ⟨3, 0x80, 0xBF, b - 0xF0⟩
  else if b == 0xF4 then some ⟨3, 0x80, 0x8F, 4⟩
  else none

/-- The characters of a list of bytes; `none` stands for an ill-formed piece.  The state is the
unfinished character, if there is one. -/
def pieces : Option Lead → List Nat → List (Option Char)
  | none, [] => []
  | some _, [] => [none]
  | some lead, b :: bytes =>
    if lead.low ≤ b && b ≤ lead.high then
      let bits := lead.bits * 64 + (b - 0x80)
      if lead.following = 1 then some (Char.ofNat bits) :: pieces none bytes
      else pieces (some ⟨lead.following - 1, 0x80, 0xBF, bits⟩) bytes
    else if b < 0x80 then none :: some (Char.ofNat b) :: pieces none bytes
    else match Lead.of? b with
      | some next => none :: pieces (some next) bytes
      | none => none :: none :: pieces none bytes
  | none, b :: bytes =>
    if b < 0x80 then some (Char.ofNat b) :: pieces none bytes
    else match Lead.of? b with
      | some next => pieces (some next) bytes
      | none => none :: pieces none bytes

/-- The bytes as numbers. -/
def numbers (bytes : ByteArray) : List Nat := bytes.toList.map UInt8.toNat

/-- The text of the bytes, with a replacement character for each ill-formed piece. -/
def decode (bytes : ByteArray) : String :=
  String.ofList ((pieces none (numbers bytes)).map (·.getD '\uFFFD'))

/-- The text of the bytes, if they are well formed. -/
def decode? (bytes : ByteArray) : Option String :=
  ((pieces none (numbers bytes)).mapM id).map String.ofList

end RpgLint.Utf8
