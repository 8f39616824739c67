import RpgLint.Line.Basic

/-!
# Line statistics

How many lines a source has of each sort.  Counts of several sources add up field by field.

## Main definitions

* `SpecCounts` — lines of each kind.
* `LineStatistics` — the counts of a source; `LineStatistics.add` joins two sources.
-/

namespace RpgLint

/-- Number of lines of each kind. -/
abbrev SpecCounts := SpecType → Nat

/-- No line of any kind. -/
def SpecCounts.zero : SpecCounts := fun _ => 0

/-- The counts of two sources together. -/
def SpecCounts.add (a b : SpecCounts) : SpecCounts := fun spec => a spec + b spec

/-- The counts of a list of lines. -/
def SpecCounts.of (lines : List Line) : SpecCounts :=
  fun spec => lines.countP (·.spec == spec)

/-- The counts of a source. -/
@[ext]
structure LineStatistics where
  /-- All lines. -/
  total : Nat
  /-- Lines with an asterisk in column 7. -/
  comments : Nat
  /-- Lines that are neither comments nor blank. -/
  code : Nat
  /-- Lines that continue an earlier line. -/
  continuations : Nat
  /-- Blank lines. -/
  empty : Nat
  /-- Lines of each kind. -/
  specs : SpecCounts

namespace LineStatistics

/-- The counts of no line. -/
def zero : LineStatistics := ⟨0, 0, 0, 0, 0, .zero⟩

/-- The counts of a list of lines. -/
def of (lines : List Line) : LineStatistics :=
  let total := lines.length
  let comments := lines.countP (·.isComment)
  let empty := lines.countP (·.isBlank)
  { total := total
    comments := comments
    code := total - comments - empty
    continuations := lines.countP (·.isContinuation)
    empty := empty
    specs := .of lines }

/-- The counts of two sources together. -/
def add (a b : LineStatistics) : LineStatistics :=
  { total := a.total + b.total
    comments := a.comments + b.comments
    code := a.code + b.code
    continuations := a.continuations + b.continuations
    empty := a.empty + b.empty
    specs := a.specs.add b.specs }

/-- The counts of several sources together. -/
def sum (all : List LineStatistics) : LineStatistics := all.foldl add zero

end LineStatistics

/-- The counts of one named source. -/
structure FileStatistics where
  /-- Name of the source. -/
  path : String
  /-- Its counts. -/
  counts : LineStatistics

/-- The counts of several sources. -/
structure ProjectStatistics where
  /-- The sources in order. -/
  files : List FileStatistics

/-- The counts of all sources together. -/
def ProjectStatistics.total (project : ProjectStatistics) : LineStatistics :=
  .sum (project.files.map (·.counts))

end RpgLint
