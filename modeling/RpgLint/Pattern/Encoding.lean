import RpgLint.Pattern.CharSet

/-!
# Sets of characters as bytes

A text is stored as UTF-8, so a character of a set is read as one byte to four, each from a range.
A run of code points is cut into pieces of which every mixture of bytes belongs to the run: the
first bytes may differ only where all the later ones are free.

## Main definitions

* `Encoding.pieces` — the pieces of a run whose characters have the same number of bytes.
* `CharSet.encodings` — the ranges of bytes that a set is read as, in increasing order.
-/

namespace RpgLint

/-- The bytes from the first to the second. -/
abbrev ByteRange := Nat × Nat

namespace Encoding

/-- How many code points share the bytes in front of so many later ones. -/
def blockSize : Nat → Nat
  | 0 => 1
  | later + 1 => 64 * blockSize later

/-- Any later byte of a character. -/
def laterBytes : ByteRange := (0x80, 0xBF)

/-- The pieces of the run from `first` to `last`, where `base` is the first byte of the number zero
and `later` bytes follow. -/
def pieces (base : Nat) : (later first last : Nat) → List (List ByteRange)
  | 0, first, last => [[(base + first, base + last)]]
  | later + 1, first, last =>
    let block := blockSize (later + 1)
    let within := fun (byte first last : Nat) =>
      (pieces 0x80 later first last).map ((base + byte, base + byte) :: ·)
    let low := first / block
    let high := last / block
    if low = high then within low (first % block) (last % block)
    else
      let lowIsWhole := first % block == 0
      let highIsWhole := last % block == block - 1
      let wholeFirst := if lowIsWhole then low else low + 1
      let wholeLast := if highIsWhole then high + 1 else high
      (if lowIsWhole then [] else within low (first % block) (block - 1)) ++
        (if wholeFirst < wholeLast then
          [(base + wholeFirst, base + wholeLast - 1) :: List.replicate (later + 1) laterBytes]
        else []) ++
        (if highIsWhole then [] else within high 0 (last % block))

/-- The pieces of a run of code points, by the number of their bytes. -/
def ofRun (run : Nat × Nat) : List (List ByteRange) :=
  let cut := fun (base later low high : Nat) =>
    if max run.1 low ≤ min run.2 high then pieces base later (max run.1 low) (min run.2 high)
    else []
  cut 0 0 0 0x7F ++ cut 0xC0 1 0x80 0x7FF ++ cut 0xE0 2 0x800 0xFFFF ++ cut 0xF0 3 0x10000 0x10FFFF

end Encoding

/-- The ranges of bytes that the characters of a set are stored as, in increasing order. -/
def CharSet.encodings (set : CharSet) : List (List ByteRange) := set.runs.flatMap Encoding.ofRun

end RpgLint
