/-!
# Double-byte characters

On the target system a run of double-byte characters is framed by a shift-out and a shift-in byte,
and each character of the run takes two bytes.  A line that looks short in characters can so be too
long in bytes.

## Main definitions

* `isDoubleByte` — the characters stored in two bytes.
* `byteLength` — length with the framing of each run.
* `shiftCharacters` — number of framing bytes: two for each run.
* `LengthAnalysis` — the numbers together.
-/

namespace RpgLint

/-- Hiragana, Katakana, unified and compatibility ideographs, Hangul syllables, and half-width and
full-width forms. -/
def isDoubleByte (c : Char) : Bool :=
  let n := c.toNat
  (0x3040 ≤ n && n ≤ 0x309F) || (0x30A0 ≤ n && n ≤ 0x30FF) || (0x4E00 ≤ n && n ≤ 0x9FFF) ||
    (0xF900 ≤ n && n ≤ 0xFAFF) || (0xAC00 ≤ n && n ≤ 0xD7AF) || (0xFF00 ≤ n && n ≤ 0xFFEF)

namespace Chars

/-- Bytes that a text takes when the characters before it leave a run open (`inRun`) or not.  An
open run is closed in front of the next single-byte character, or at the end. -/
def bytesAfter (inRun : Bool) : List Char → Nat
  | [] => if inRun then 1 else 0
  | c :: cs =>
    if isDoubleByte c then (if inRun then 2 else 3) + bytesAfter true cs
    else (if inRun then 2 else 1) + bytesAfter false cs

/-- Number of runs that begin in a text when the characters before it leave a run open or not. -/
def runsAfter (inRun : Bool) : List Char → Nat
  | [] => 0
  | c :: cs => (if isDoubleByte c && !inRun then 1 else 0) + runsAfter (isDoubleByte c) cs

end Chars

/-- Bytes that the text takes, with the framing of each run. -/
def byteLength (s : String) : Nat := Chars.bytesAfter false s.toList

/-- Number of double-byte characters. -/
def doubleByteCount (s : String) : Nat := s.toList.countP isDoubleByte

/-- The text holds a double-byte character. -/
def hasDoubleByte (s : String) : Bool := s.toList.any isDoubleByte

/-- Number of framing bytes: two for each run of double-byte characters. -/
def shiftCharacters (s : String) : Nat := 2 * Chars.runsAfter false s.toList

/-- The lengths of a text. -/
structure LengthAnalysis where
  /-- Length in characters. -/
  totalLength : Nat
  /-- Length in bytes. -/
  byteLength : Nat
  /-- Characters that take two bytes. -/
  doubleByteCount : Nat
  /-- Characters that take one byte. -/
  singleByteCount : Nat
  /-- Framing bytes. -/
  shiftCharacters : Nat
  /-- Some character takes two bytes. -/
  hasDoubleByte : Bool

/-- The lengths of a text. -/
def LengthAnalysis.of (s : String) : LengthAnalysis :=
  { totalLength := s.toList.length
    byteLength := RpgLint.byteLength s
    doubleByteCount := RpgLint.doubleByteCount s
    singleByteCount := s.toList.length - RpgLint.doubleByteCount s
    shiftCharacters := RpgLint.shiftCharacters s
    hasDoubleByte := RpgLint.hasDoubleByte s }

end RpgLint
