import RpgLint.Proofs.Check.SeveralStatements
import RpgLint.Proofs.Line.Classification

/-!
# Free blocks and the bit of the check on statements

There are two accounts of free-form code.  The list of blocks has a block for each `/FREE`, which
ends where the next directive closes it and otherwise never; the check on statements keeps a bit
that says whether the last directive was a `/FREE`.  A line in a block that never ends may stand
behind an `/END-FREE` all the same, when the block was opened anew before it was closed, and this is
the only way in which the two can differ.

## Main definitions

* `firstDirective?`, `nextDirective?` — the first directive on lines, and the next one behind a
  line.
* `closedAt?` — where a block ends that is open in front of the lines.
* `StaysOpen` — directives that leave a block open, closed by another or not.

## Main results

* `freeBlocks_of_free`, `map_start_freeBlocks` — a block for each `/FREE`.
* `isInFreeBlock_iff` — the lines that stand in some block.
* `freeBlocks_agree_unless_reopened` — the list of blocks and the bit.
-/

namespace RpgLint

/-! ### A block for each opening directive -/

/-- The first directive on the lines, with the number of its line. -/
def firstDirective? (lines : List Line) : Option (Nat × Directive) :=
  lines.findSome? fun line => line.directive?.map (line.number, ·)

/-- The first directive behind the line with the number. -/
def nextDirective? (number : Nat) (lines : List Line) : Option (Nat × Directive) :=
  firstDirective? (lines.filter (number < ·.number))

/-- The line on which a block ends that is open in front of the lines. -/
def closedAt? (lines : List Line) : Option Nat :=
  match firstDirective? lines with
  | some (number, .endFree) => some number
  | _ => none

section

variable {line : Line} {lines : List Line}

theorem firstDirective?_of_none (h : line.directive? = none) :
    firstDirective? (line :: lines) = firstDirective? lines := by
  rw [firstDirective?, List.findSome?_cons, h]
  rfl

theorem firstDirective?_of_some {directive : Directive} (h : line.directive? = some directive) :
    firstDirective? (line :: lines) = some (line.number, directive) := by
  rw [firstDirective?, List.findSome?_cons, h]
  rfl

theorem closedAt?_eq_some_iff {number : Nat} :
    closedAt? lines = some number ↔ firstDirective? lines = some (number, .endFree) := by
  unfold closedAt?
  split
  · next h => simp [h]
  · next h => simpa using h number

/-- A block that is open in front of the lines is one more block. -/
theorem freeBlocksFrom_some (start : Nat) (lines : List Line) :
    freeBlocksFrom (some start) lines = ⟨start, closedAt? lines⟩ :: freeBlocks lines := by
  induction lines with
  | nil => rfl
  | cons line lines ih =>
    rw [freeBlocks, freeBlocksFrom, freeBlocksFrom, closedAt?]
    cases hline : line.directive? with
    | none =>
      rw [firstDirective?_of_none hline]
      exact ih
    | some directive =>
      rw [firstDirective?_of_some hline]
      cases directive <;> rfl

theorem freeBlocks_of_free (h : line.directive? = some .free) :
    freeBlocks (line :: lines) = ⟨line.number, closedAt? lines⟩ :: freeBlocks lines := by
  rw [freeBlocks, freeBlocksFrom, h, ← freeBlocksFrom_some]
  rfl

theorem freeBlocks_of_not_free (h : line.directive? ≠ some .free) :
    freeBlocks (line :: lines) = freeBlocks lines := by
  rw [freeBlocks, freeBlocksFrom]
  cases hline : line.directive? with
  | none => rfl
  | some directive =>
    cases directive with
    | free => exact absurd hline h
    | endFree => rfl

end

/-- The blocks start at the opening directives, in their order. -/
theorem map_start_freeBlocks (lines : List Line) :
    (freeBlocks lines).map (·.start) =
      (lines.filter (·.directive? == some .free)).map (·.number) := by
  induction lines with
  | nil => rfl
  | cons line lines ih =>
    by_cases h : line.directive? = some .free
    · rw [freeBlocks_of_free h, List.map_cons, ih, List.filter_cons, if_pos (by simpa using h),
        List.map_cons]
    · rw [freeBlocks_of_not_free h, ih, List.filter_cons, if_neg (by simpa using h)]

/-- A block comes of an opening directive, and ends where the lines behind it say. -/
theorem exists_of_mem_freeBlocks {lines : List Line} {block : FreeBlock}
    (h : block ∈ freeBlocks lines) :
    ∃ front line back, lines = front ++ line :: back ∧ block = ⟨line.number, closedAt? back⟩ := by
  induction lines with
  | nil => cases h
  | cons line lines ih =>
    -- a block of the rest, behind one line more
    have hlater : block ∈ freeBlocks lines →
        ∃ front other back, line :: lines = front ++ other :: back ∧
          block = ⟨other.number, closedAt? back⟩ := by
      intro hmem
      obtain ⟨front, other, back, rfl, hblock⟩ := ih hmem
      exact ⟨line :: front, other, back, rfl, hblock⟩
    by_cases hfree : line.directive? = some .free
    · rw [freeBlocks_of_free hfree, List.mem_cons] at h
      exact h.elim (fun hblock => ⟨[], line, lines, rfl, hblock⟩) hlater
    · rw [freeBlocks_of_not_free hfree] at h
      exact hlater h

/-! ### Lines in order -/

/-- The lines are numbered in increasing order. -/
def Ordered (lines : List Line) : Prop := (lines.map Line.number).Pairwise (· < ·)

section

variable {front back : List Line} {line : Line} (h : Ordered (front ++ line :: back))

include h

theorem Ordered.lt_of_mem_back : ∀ other ∈ back, line.number < other.number := by
  intro other hmem
  rw [Ordered, List.map_append, List.map_cons] at h
  exact (List.pairwise_cons.mp (List.pairwise_append.mp h).2.1).1 _ (List.mem_map_of_mem hmem)

theorem Ordered.lt_of_mem_front : ∀ other ∈ front, other.number < line.number := by
  intro other hmem
  rw [Ordered, List.map_append, List.map_cons] at h
  exact (List.pairwise_append.mp h).2.2 _ (List.mem_map_of_mem hmem) _ List.mem_cons_self

/-- The lines with greater numbers are those behind the line. -/
theorem Ordered.nextDirective?_eq :
    nextDirective? line.number (front ++ line :: back) = firstDirective? back := by
  have hfront : front.filter (line.number < ·.number) = [] := by
    refine List.filter_eq_nil_iff.mpr fun other hmem => ?_
    have hlt := h.lt_of_mem_front other hmem
    simp only [decide_eq_true_eq]
    omega
  have hback : back.filter (line.number < ·.number) = back :=
    List.filter_eq_self.mpr fun other hmem => decide_eq_true (h.lt_of_mem_back other hmem)
  rw [nextDirective?, List.filter_append, hfront, List.nil_append,
    List.filter_cons_of_neg (by simp), hback]

end

/-! ### Lines in a block -/

/-- The directives leave a block open: the last one opens a block, or one opened a block while
another was open. -/
def StaysOpen (word : List Directive) : Prop :=
  word.getLast? = some .free ∨ [.free, .free] <:+: word

theorem not_staysOpen_nil : ¬StaysOpen [] := by
  rintro (h | h)
  · cases h
  · cases List.infix_nil.mp h

theorem staysOpen_endFree_cons (word : List Directive) :
    StaysOpen (.endFree :: word) ↔ StaysOpen word := by
  rw [StaysOpen, StaysOpen, List.infix_cons_iff]
  cases word <;> simp

/-- A block that is opened is left open, unless the next directive closes it. -/
theorem staysOpen_free_cons (word : List Directive) :
    StaysOpen (.free :: word) ↔ word.head? ≠ some .endFree ∨ StaysOpen word := by
  rw [StaysOpen, StaysOpen, List.infix_cons_iff]
  cases word with
  | nil => simp
  | cons directive word => cases directive <;> simp

theorem map_snd_firstDirective? (lines : List Line) :
    (firstDirective? lines).map Prod.snd = (lines.filterMap Line.directive?).head? := by
  rw [List.head?_filterMap, firstDirective?, List.map_findSome?]
  refine congrArg (List.findSome? · lines) (funext fun line => ?_)
  cases h : line.directive? <;> simp [h]

theorem exists_mem_of_firstDirective? {lines : List Line} {number : Nat} {directive : Directive}
    (h : firstDirective? lines = some (number, directive)) :
    ∃ line ∈ lines, line.number = number := by
  obtain ⟨line, hmem, hline⟩ := List.exists_of_findSome?_eq_some h
  obtain ⟨_, -, hnumber⟩ := Option.map_eq_some_iff.mp hline
  exact ⟨line, hmem, (Prod.mk.inj hnumber).1⟩

section

variable {front back : List Line} {line : Line}

/-- A block that is open in front of the lines holds a line among them, unless the next directive
comes before the line and closes the block. -/
theorem Ordered.holds_iff (h : Ordered (front ++ line :: back)) (hnone : line.directive? = none)
    {start : Nat} (hstart : start < line.number) :
    (FreeBlock.mk start (closedAt? (front ++ line :: back))).holds line.number ↔
      (front.filterMap Line.directive?).head? ≠ some .endFree := by
  have hsplit : firstDirective? (front ++ line :: back) =
      (firstDirective? front).or (firstDirective? back) := by
    rw [firstDirective?, List.findSome?_append]
    exact congrArg (firstDirective? front).or (firstDirective?_of_none hnone)
  rw [← map_snd_firstDirective?, FreeBlock.holds, closedAt?, hsplit]
  cases hfront : firstDirective? front with
  | some first =>
    -- the next directive comes before the line
    obtain ⟨number, directive⟩ := first
    obtain ⟨other, hmem, rfl⟩ := exists_mem_of_firstDirective? hfront
    have hbefore := h.lt_of_mem_front other hmem
    cases directive <;> simp [hstart]
    omega
  | none =>
    cases hback : firstDirective? back with
    | none => simp [hstart]
    | some first =>
      -- it comes behind the line, and no block ends in front of it
      obtain ⟨number, directive⟩ := first
      obtain ⟨other, hmem, rfl⟩ := exists_mem_of_firstDirective? hback
      have hbehind := h.lt_of_mem_back other hmem
      cases directive <;> simp [hstart, hbehind]

/-- **The lines that stand in some block**: those in front of which the directives leave a block
open. -/
theorem isInFreeBlock_iff (h : Ordered (front ++ line :: back)) (hnone : line.directive? = none) :
    isInFreeBlock (freeBlocks (front ++ line :: back)) line.number ↔
      StaysOpen (front.filterMap Line.directive?) := by
  induction front with
  | nil =>
    -- all blocks start behind the line
    have hstarts : ∀ block ∈ freeBlocks (line :: back), line.number < block.start := by
      intro block hmem
      rw [freeBlocks_of_not_free (by simp [hnone])] at hmem
      have hstart := List.mem_map_of_mem (f := FreeBlock.start) hmem
      rw [map_start_freeBlocks, List.mem_map] at hstart
      obtain ⟨other, hother, hnumber⟩ := hstart
      rw [← hnumber]
      exact h.lt_of_mem_back other (List.mem_of_mem_filter hother)
    refine iff_of_false (fun hholds => ?_) not_staysOpen_nil
    obtain ⟨block, hmem, hblock⟩ := List.any_eq_true.mp hholds
    rw [FreeBlock.holds, Bool.and_eq_true, decide_eq_true_eq] at hblock
    exact absurd hblock.1 (Nat.lt_asymm (hstarts block hmem))
  | cons first front ih =>
    have hrest : Ordered (front ++ line :: back) := (List.pairwise_cons.mp h).2
    cases hfirst : first.directive? with
    | none =>
      rw [List.cons_append, freeBlocks_of_not_free (by simp [hfirst]), ih hrest,
        List.filterMap_cons_none hfirst]
    | some directive =>
      rw [List.filterMap_cons_some hfirst]
      cases directive with
      | endFree =>
        -- a closing directive starts no block, and leaves none open
        rw [List.cons_append, freeBlocks_of_not_free (by simp [hfirst]), ih hrest,
          staysOpen_endFree_cons]
      | free =>
        -- the block that starts here, or a later one
        have hstart := h.lt_of_mem_front first List.mem_cons_self
        rw [List.cons_append, freeBlocks_of_free hfirst, isInFreeBlock, List.any_cons,
          Bool.or_eq_true, hrest.holds_iff hnone hstart, ← isInFreeBlock, ih hrest,
          staysOpen_free_cons]

end

/-! ### The two accounts -/

/-- **The list of blocks and the bit of the check on statements.**  The blocks start at the opening
directives, in increasing order, and a block ends at the next directive if that closes it and
otherwise never.  A line that is no directive stands in some block exactly when the last directive
in front of it is `/FREE`, which is what the bit says, or two directives in front of it that follow
one another are.  So the two can differ only behind a block that was opened anew. -/
theorem freeBlocks_agree_unless_reopened (source : String) :
    let lines := classify source
    let blocks := freeBlocks lines
    blocks.map (·.start) = (lines.filter (·.directive? == some .free)).map (·.number) ∧
      (blocks.map (·.start)).Pairwise (· < ·) ∧
      (∀ block ∈ blocks, ∀ number,
        block.stop = some number ↔ nextDirective? block.start lines = some (number, .endFree)) ∧
      checkMultipleStatements lines =
        (flagged false lines).flatMap
          (fun p => multipleStatements (hasFreeSentinel lines) p.1 p.2) ∧
      ∀ i line, lines[i]? = some line → line.directive? = none →
        (isInFreeBlock blocks line.number ↔
          lastDirective? (lines.take i) = some .free ∨
            [.free, .free] <:+: (lines.take i).filterMap Line.directive?) ∧
        ∃ bit, (flagged false lines)[i]? = some (bit, line) ∧
          (bit = true ↔ lastDirective? (lines.take i) = some .free) ∧
          (isInFreeBlock blocks line.number ≠ bit →
            [.free, .free] <:+: (lines.take i).filterMap Line.directive?) := by
  intro lines blocks
  have hordered : Ordered lines := pairwise_number_classify source
  refine ⟨map_start_freeBlocks lines, ?_, ?_, checkMultipleStatementsFrom_eq _ _ _, ?_⟩
  · rw [map_start_freeBlocks]
    exact hordered.sublist (List.filter_sublist.map _)
  · intro block hmem number
    obtain ⟨front, line, back, hlines, rfl⟩ := exists_of_mem_freeBlocks hmem
    rw [hlines] at hordered ⊢
    rw [hordered.nextDirective?_eq]
    exact closedAt?_eq_some_iff
  · intro i line hat hnone
    -- the bit tells the last directive in front of the line
    have hbit : (flagged false lines)[i]? =
        some (lastDirective? (lines.take i) == some .free, line) := by
      rw [flagged_eq_inBlocks, inBlocks, List.getElem?_mapIdx, hat]
      rfl
    have hin : isInFreeBlock blocks line.number ↔
        StaysOpen ((lines.take i).filterMap Line.directive?) := by
      obtain ⟨hi, rfl⟩ := List.getElem?_eq_some_iff.mp hat
      have hlines : lines = lines.take i ++ lines[i] :: lines.drop (i + 1) := by
        rw [← List.drop_eq_getElem_cons hi, List.take_append_drop]
      rw [hlines] at hordered
      have hiff := isInFreeBlock_iff hordered hnone
      rwa [← hlines] at hiff
    refine ⟨hin, _, hbit, beq_iff_eq, fun hdiffer => ?_⟩
    -- without a block that is opened anew the two say the same
    by_contra hnot
    refine hdiffer (Bool.eq_iff_iff.mpr ?_)
    rw [hin, beq_iff_eq]
    exact or_iff_left hnot

/-- A block that is opened anew and then closed: the first one never ends, but the bit is off. -/
theorem freeBlocks_differ_when_reopened :
    let lines := classify "/FREE\n/FREE\n/END-FREE\nx = 1;"
    let line := Line.classify 4 "x = 1;"
    (lines[3]? = some line ∧ line.directive? = none) ∧
      isInFreeBlock (freeBlocks lines) line.number = true ∧
      (flagged false lines)[3]? = some (false, line) := by
  intro lines line
  have hat : lines[3]? = some line := by decide
  have hnone : line.directive? = none := by decide
  obtain ⟨hin, bit, hbit, hlast, -⟩ :=
    (freeBlocks_agree_unless_reopened "/FREE\n/FREE\n/END-FREE\nx = 1;").2.2.2.2 3 line hat hnone
  have hoff : bit = false :=
    Bool.eq_false_iff.mpr fun hon => absurd (hlast.mp hon) (by decide)
  refine ⟨⟨hat, hnone⟩, hin.mpr (.inr ⟨[], [.endFree], by decide⟩), ?_⟩
  rwa [hoff] at hbit

end RpgLint
