import RpgLint.Proofs.Check.CommentArea

/-!
# Lines with several statements

A line offends when it has two semicolons or more outside of literals, is neither a directive nor a
comment, and is a calculation or stands in a free block, behind a `/FREE` and no further directive.
In a source without the sentinel every such line is reported.  A calculation in a free block is
reported twice, though, once for each place that it counts as, and a comment that begins with `//`
is reported like code.  Without such lines, each line that offends is reported once and no other
line is.

## Main definitions

* `lastDirective?`, `inBlocks` — the last directive on lines, and the lines that stand in a free
  block.
* `Line.offends` — the lines that should be reported.
* `offences` — one finding for each of them.
* `Line.isCountedComment`, `Line.isCountedTwice` — the lines that are reported too often.

## Main results

* `flagged_eq_inBlocks` — the bit that the check keeps is whether the last directive is `/FREE`.
* `length_checkMultipleStatements` — the number of findings.
* `offences_reported_once_iff` — when each line that offends is reported once.
-/

namespace RpgLint

/-! ### Free blocks -/

/-- The last directive on the lines. -/
def lastDirective? (lines : List Line) : Option Directive :=
  (lines.filterMap Line.directive?).getLast?

/-- The lines, each with the bit that says whether the last directive in front of it is `/FREE`. -/
def inBlocks (lines : List Line) : List (Bool × Line) :=
  lines.mapIdx fun i line => (lastDirective? (lines.take i) == some .free, line)

theorem lastDirective?_concat (front : List Line) (line : Line) :
    lastDirective? (front ++ [line]) = line.directive?.or (lastDirective? front) := by
  rw [lastDirective?, lastDirective?, List.filterMap_append, List.getLast?_append]
  cases h : line.directive? <;> simp [h]

/-- Behind a line, a free block is open when the last directive is `/FREE`, if it was so in front of
the line. -/
theorem insideFreeAfter_lastDirective? (front : List Line) (line : Line) :
    insideFreeAfter (lastDirective? front == some .free) line =
      (lastDirective? (front ++ [line]) == some .free) := by
  rw [lastDirective?_concat]
  unfold insideFreeAfter
  cases line.directive? with
  | none => rfl
  | some directive => cases directive <;> rfl

/-- **The bit that the check keeps** is whether the last directive is `/FREE`, behind lines that it
has read. -/
theorem flagged_lastDirective? (front lines : List Line) :
    flagged (lastDirective? front == some .free) lines =
      lines.mapIdx fun i line => (lastDirective? (front ++ lines.take i) == some .free, line) := by
  -- each step moves the line that is read to the end of those in front
  induction lines generalizing front with
  | nil => rfl
  | cons line lines ih =>
    rw [flagged, insideFreeAfter_lastDirective?, ih, List.mapIdx_cons, List.take_zero,
      List.append_nil]
    congr 1
    refine congrArg (List.mapIdx · lines) (funext₂ fun i other => ?_)
    rw [List.take_succ_cons, List.append_assoc, List.singleton_append]

theorem flagged_eq_inBlocks (lines : List Line) : flagged false lines = inBlocks lines :=
  flagged_lastDirective? [] lines

/-! ### Lines that offend -/

namespace Line

/-- The first thing on the line is the `//` of a comment. -/
def isSlashComment (line : Line) : Bool := startsWith line.trimmed "//"

/-- The line should be reported: it is neither a directive nor a comment, has several semicolons,
and is a calculation or stands in a free block. -/
def offends (inFreeBlock : Bool) (line : Line) : Bool :=
  line.directive?.isNone && !(line.isComment || line.isSlashComment) &&
    decide (2 ≤ semicolons line.raw) && (line.spec == .calculation || inFreeBlock)

/-- The place that a line counts as, a calculation before a line of a free block. -/
def place (line : Line) : String :=
  if line.spec == .calculation then "in a calculation" else "inside /FREE"

/-- A comment that begins with `//` is counted as code. -/
def isCountedComment (inFreeBlock : Bool) (line : Line) : Bool :=
  (line.surplus? inFreeBlock).isSome && line.isSlashComment

/-- A calculation in a free block is counted as both. -/
def isCountedTwice (inFreeBlock : Bool) (line : Line) : Bool :=
  (line.surplus? inFreeBlock).isSome && (line.spec == .calculation && inFreeBlock)

theorem offends_eq (inFreeBlock : Bool) (line : Line) :
    line.offends inFreeBlock = ((line.surplus? inFreeBlock).isSome && !line.isSlashComment) := by
  have hseveral : decide (2 ≤ semicolons line.raw) = !decide (semicolons line.raw ≤ 1) := by
    rw [← decide_not, decide_eq_decide]
    omega
  unfold offends surplus?
  rw [hseveral]
  cases line.directive? <;> cases line.isComment <;> cases line.isSlashComment <;>
    cases line.spec == .calculation <;> cases inFreeBlock <;>
      by_cases h : semicolons line.raw ≤ 1 <;> simp [h]

end Line

/-- One finding for each line that offends. -/
def offences (lines : List Line) : List Issue :=
  ((inBlocks lines).filter fun p => p.2.offends p.1).map fun p =>
    multipleStatementsIssue p.2 p.2.place

/-! ### What is reported -/

section

variable (inFreeBlock : Bool) (line : Line)

/-- A line that offends is reported. -/
theorem sublist_multipleStatements :
    (if line.offends inFreeBlock then [multipleStatementsIssue line line.place] else []).Sublist
      (multipleStatements false inFreeBlock line) := by
  rw [multipleStatements_eq, Line.offends_eq, Line.place]
  cases hsurplus : line.surplus? inFreeBlock with
  | none => simp
  | some count =>
    -- a calculation, or a line of a free block: the first of the two findings is the expected one
    obtain ⟨hplace, -⟩ := Line.surplus?_eq_some hsurplus
    cases line.isSlashComment with
    | true => simp
    | false => cases hspec : line.spec == .calculation <;> cases inFreeBlock <;> simp_all

theorem length_multipleStatements :
    (multipleStatements false inFreeBlock line).length =
      (line.offends inFreeBlock).toNat + (line.isCountedComment inFreeBlock).toNat +
        (line.isCountedTwice inFreeBlock).toNat := by
  rw [multipleStatements_eq, Line.offends_eq, Line.isCountedComment, Line.isCountedTwice]
  cases hsurplus : line.surplus? inFreeBlock with
  | none => rfl
  | some count =>
    -- one finding for each of the two places that fit
    obtain ⟨hplace, -⟩ := Line.surplus?_eq_some hsurplus
    cases line.isSlashComment <;> cases hspec : line.spec == .calculation <;> cases inFreeBlock <;>
      simp_all

end

section

variable {lines : List Line} (hfixed : hasFreeSentinel lines = false)

include hfixed

/-- Every line that offends is reported, in the order of the lines. -/
theorem offences_sublist : (offences lines).Sublist (checkMultipleStatements lines) := by
  rw [checkMultipleStatements_eq hfixed, flagged_eq_inBlocks, offences]
  induction inBlocks lines with
  | nil => exact List.Sublist.slnil
  | cons p ps ih =>
    have hline := sublist_multipleStatements p.1 p.2
    rw [List.flatMap_cons, List.filter_cons]
    split at hline
    · next hoffends =>
      rw [if_pos hoffends, List.map_cons]
      exact hline.append ih
    · next hoffends =>
      rw [if_neg hoffends]
      exact hline.append ih

/-- The number of findings: one for each line that offends, one for each comment that is counted as
code, and one more for each line that is counted twice. -/
theorem length_checkMultipleStatements :
    (checkMultipleStatements lines).length =
      (offences lines).length + (inBlocks lines).countP (fun p => p.2.isCountedComment p.1) +
        (inBlocks lines).countP fun p => p.2.isCountedTwice p.1 := by
  rw [checkMultipleStatements_eq hfixed, flagged_eq_inBlocks, offences, List.length_map,
    ← List.countP_eq_length_filter]
  induction inBlocks lines with
  | nil => rfl
  | cons p ps ih =>
    have htoNat : ∀ b : Bool, (if b = true then 1 else 0) = b.toNat := fun b => by cases b <;> rfl
    rw [List.flatMap_cons, List.length_append, length_multipleStatements, ih, List.countP_cons,
      List.countP_cons, List.countP_cons, htoNat, htoNat, htoNat]
    omega

/-- **Lines that offend are reported**, in any case.  They are reported once each, and no other line
is, exactly when none of the lines with several semicolons that are calculations or stand in a free
block is a comment that begins with `//`, or is both of the two. -/
theorem offences_reported_once_iff :
    (offences lines).Sublist (checkMultipleStatements lines) ∧
      (checkMultipleStatements lines = offences lines ↔
        ∀ p ∈ inBlocks lines, ¬p.2.isCountedComment p.1 ∧ ¬p.2.isCountedTwice p.1) := by
  have hsublist := offences_sublist hfixed
  have hlength := length_checkMultipleStatements hfixed
  refine ⟨hsublist, ?_⟩
  rw [forall₂_and, ← List.countP_eq_zero, ← List.countP_eq_zero]
  constructor
  · -- the numbers differ by the lines that are counted for nothing
    intro hsame
    rw [hsame] at hlength
    omega
  · -- as many findings as lines that offend, and these are among them
    rintro ⟨hcomments, htwice⟩
    rw [hcomments, htwice] at hlength
    exact (hsublist.eq_of_length hlength.symm).symm

end

/-- A calculation in front of a free block, and a line in the block. -/
theorem offences_reported_once_block :
    let lines :=
      [Line.classify 1 "     C  a = 1; b = 2;", Line.classify 2 "/FREE",
        Line.classify 3 "c = ';'; d = 4;", Line.classify 4 "// set; done",
        Line.classify 5 "/END-FREE"]
    hasFreeSentinel lines = false ∧ (offences lines).length = 2 ∧
      checkMultipleStatements lines = offences lines := by
  intro lines
  have hfixed : hasFreeSentinel lines = false := by decide
  exact ⟨hfixed, by decide +kernel, (offences_reported_once_iff hfixed).2.mpr (by decide +kernel)⟩

/-- In a free block a comment is reported, and a calculation twice. -/
theorem free_block_reported_too_often :
    ¬∀ lines : List Line, hasFreeSentinel lines = false →
      checkMultipleStatements lines = offences lines := by
  intro h
  have hlength := congrArg List.length
    (h [Line.classify 1 "/FREE", Line.classify 2 "// a = 1; b = 2;",
      Line.classify 3 "     C  c = 3; d = 4;"] (by decide))
  exact absurd hlength (by decide +kernel)

end RpgLint
