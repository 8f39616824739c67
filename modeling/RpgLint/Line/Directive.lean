import RpgLint.Line.Basic

/-!
# The code area and the free-form directives

Columns 81 and beyond are an area for comments.  The directives `/FREE` and `/END-FREE` enclose
blocks of free-form code.

## Main definitions

* `codeArea`, `continuesName` — columns 1 to 80, and a long name that goes on in the next line.
* `Line.directive?` — the directive on a line.
* `freeBlocks` — the regions between directives.
* `specificationOrder` — the kinds of a source in order of first appearance.
-/

namespace RpgLint

/-- Columns 1 to 80 without the blanks at their end. -/
def codeArea (raw : String) : String := trimEnd (slice raw 0 80)

/-- The code area ends with `...`: a long name goes on in the next line. -/
def continuesName (raw : String) : Bool := endsWith (codeArea raw) "..."

/-- A directive for free-form code. -/
inductive Directive
  /-- `/FREE` -/
  | free
  /-- `/END-FREE` -/
  | endFree
  deriving DecidableEq, Repr

/-- The directive that the line begins with, in either case and after any blanks. -/
def Line.directive? (line : Line) : Option Directive :=
  let word := upper line.trimmed
  if startsWith word "/END-FREE" then some .endFree
  else if startsWith word "/FREE" then some .free
  else none

/-- A region opened by `/FREE`. -/
structure FreeBlock where
  /-- Line of the opening directive. -/
  start : Nat
  /-- Line of the closing directive, if the region is closed. -/
  stop : Option Nat
  deriving DecidableEq, Repr

/-- The line lies strictly between the directives. -/
def FreeBlock.holds (block : FreeBlock) (number : Nat) : Bool :=
  block.start < number && (match block.stop with
    | some stop => number < stop
    | none => true)

/-- The regions of the lines when `current` is the start of the one that is open.  A second `/FREE`
leaves the open region unclosed, and an `/END-FREE` without an open region counts for nothing. -/
def freeBlocksFrom (current : Option Nat) : List Line → List FreeBlock
  | [] => (current.map fun start => ⟨start, none⟩).toList
  | line :: lines =>
    match line.directive? with
    | some .free =>
      (current.map fun start => ⟨start, none⟩).toList ++ freeBlocksFrom (some line.number) lines
    | some .endFree =>
      (current.map fun start => ⟨start, some line.number⟩).toList ++ freeBlocksFrom none lines
    | none => freeBlocksFrom current lines

/-- The regions opened by `/FREE`. -/
def freeBlocks (lines : List Line) : List FreeBlock := freeBlocksFrom none lines

/-- Some region holds the line. -/
def isInFreeBlock (blocks : List FreeBlock) (number : Nat) : Bool := blocks.any (·.holds number)

/-- Whether a free block is open, after a line on which it was (`inside`) or not. -/
def insideFreeAfter (inside : Bool) (line : Line) : Bool :=
  match line.directive? with
  | some .free => true
  | some .endFree => false
  | none => inside

/-- Some line is the `**FREE` sentinel. -/
def hasFreeSentinel (lines : List Line) : Bool := lines.any (·.spec == .free)

/-- The kinds of the lines in order of first appearance, without comments and unknown lines. -/
def specificationOrder (lines : List Line) : List SpecType :=
  ((lines.filter fun line => !line.isComment && line.spec != .unknown).map (·.spec)).eraseDups

end RpgLint
