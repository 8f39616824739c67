import RpgLint.Pattern.CaseFolding
import RpgLint.Pattern.WordCharacter
import RpgLint.Text.Characters

/-!
# Sets of characters

What a pattern admits at one place.  A set is kept as runs of code points in increasing order with
gaps between them, so that equal sets are kept in the same way.

## Main definitions

* `CharSet`, `CharSet.holds` — the sets, and their members.
* `CharSet.ofRuns` — the set of any runs of code points.
* `CharSet.union`, `inter`, `diff`, `symmDiff`, `compl` — the operations on sets.
* `CharSet.closeCase` — the set with every case of its letters.
* `CharSet.digit`, `space`, `word`, `ofAsciiName?` — the sets with a name.
-/

namespace RpgLint

/-- A set of characters: the first and the last code point of each run. -/
structure CharSet where
  /-- The runs, in increasing order. -/
  runs : List (Nat × Nat)
  deriving DecidableEq, Repr

namespace CharSet

/-- Some run holds the number.  The runs are in increasing order, so that the search ends behind the
number. -/
def holdsIn (n : Nat) : List (Nat × Nat) → Bool
  | [] => false
  | run :: runs => if n < run.1 then false else n ≤ run.2 || holdsIn n runs

/-- The set holds the code point. -/
def holds (set : CharSet) (n : Nat) : Bool := holdsIn n set.runs

/-- No character. -/
def none : CharSet := ⟨[]⟩

/-- The parts of a run that are characters: surrogates are not. -/
def characters (run : Nat × Nat) : List (Nat × Nat) :=
  [(run.1, min run.2 0xD7FF), (max run.1 0xE000, run.2)].filter fun part => part.1 ≤ part.2

/-- Joins runs that overlap or touch.  They are sorted by their first code points, and `run` comes
in front of them. -/
def join (run : Nat × Nat) : List (Nat × Nat) → List (Nat × Nat)
  | [] => [run]
  | next :: runs =>
    if next.1 ≤ run.2 + 1 then join (run.1, max run.2 next.2) runs else run :: join next runs

/-- The characters of any runs. -/
def ofRuns (runs : List (Nat × Nat)) : CharSet :=
  match (runs.flatMap characters).mergeSort (fun a b => decide (a.1 ≤ b.1)) with
  | [] => none
  | run :: runs => ⟨join run runs⟩

/-- The code points from `first` to `last`. -/
def range (first last : Nat) : CharSet := ofRuns [(first, last)]

/-- The set of one character. -/
def single (c : Char) : CharSet := ⟨[(c.toNat, c.toNat)]⟩

/-- Characters of either set. -/
def union (a b : CharSet) : CharSet := ofRuns (a.runs ++ b.runs)

/-- Characters of any set of a list. -/
def unions (sets : List CharSet) : CharSet := ofRuns (sets.flatMap runs)

/-- The gaps between runs, from `start` on up to the last code point. -/
def gaps (start : Nat) : List (Nat × Nat) → List (Nat × Nat)
  | [] => [(start, 0x10FFFF)]
  | run :: runs =>
    if run.1 = 0 then gaps (run.2 + 1) runs else (start, run.1 - 1) :: gaps (run.2 + 1) runs

/-- Characters outside of the set. -/
def compl (a : CharSet) : CharSet := ofRuns (gaps 0 a.runs)

/-- Every character. -/
def all : CharSet := compl none

/-- Characters of both sets. -/
def inter (a b : CharSet) : CharSet := compl (union (compl a) (compl b))

/-- Characters of the first set that are not in the second. -/
def diff (a b : CharSet) : CharSet := inter a (compl b)

/-- Characters of exactly one of the sets. -/
def symmDiff (a b : CharSet) : CharSet := union (diff a b) (diff b a)

/-- The set with every character that folds like one of its own, by the given foldings: first what
its characters fold to, and then all that folds to these. -/
def closeCase (table : List (Nat × Nat)) (set : CharSet) : CharSet :=
  let folded :=
    union set (ofRuns
      ((table.filter fun pair => set.holds pair.1).map fun pair => (pair.2, pair.2)))
  union folded
    (ofRuns ((table.filter fun pair => folded.holds pair.2).map fun pair => (pair.1, pair.1)))

/-- All characters of the set are ASCII. -/
def isAscii (set : CharSet) : Bool := set.runs.all fun run => run.2 < 0x80

/-- The only character of the set. -/
def onlyMember? (set : CharSet) : Option Char :=
  match set.runs with
  | [(first, last)] => if first = last then some (Char.ofNat first) else Option.none
  | _ => Option.none

/-! ### Sets with a name -/

/-- Decimal digits. -/
def digit : CharSet := ofRuns decimalDigitRuns

/-- Blank characters. -/
def space : CharSet := ofRuns blankRuns

/-- Word characters. -/
def word : CharSet := ofRuns wordRuns

/-- The ASCII class with the given name. -/
def ofAsciiName? (name : String) : Option CharSet :=
  let digits := (0x30, 0x39)
  let uppers := (0x41, 0x5A)
  let lowers := (0x61, 0x7A)
  match name with
  | "alnum" => some (ofRuns [digits, uppers, lowers])
  | "alpha" => some (ofRuns [uppers, lowers])
  | "ascii" => some (ofRuns [(0, 0x7F)])
  | "blank" => some (ofRuns [(0x9, 0x9), (0x20, 0x20)])
  | "cntrl" => some (ofRuns [(0, 0x1F), (0x7F, 0x7F)])
  | "digit" => some (ofRuns [digits])
  | "graph" => some (ofRuns [(0x21, 0x7E)])
  | "lower" => some (ofRuns [lowers])
  | "print" => some (ofRuns [(0x20, 0x7E)])
  | "punct" => some (ofRuns [(0x21, 0x2F), (0x3A, 0x40), (0x5B, 0x60), (0x7B, 0x7E)])
  | "space" => some (ofRuns [(0x9, 0xD), (0x20, 0x20)])
  | "upper" => some (ofRuns [uppers])
  | "word" => some (ofRuns [digits, uppers, (0x5F, 0x5F), lowers])
  | "xdigit" => some (ofRuns [digits, (0x41, 0x46), (0x61, 0x66)])
  | _ => Option.none

end CharSet

end RpgLint
