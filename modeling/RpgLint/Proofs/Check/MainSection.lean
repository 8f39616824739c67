import Mathlib.Data.List.Basic
import RpgLint.Check.Order

/-!
# The main section

Which lines belong to the main section, told from the positions of the lines alone: a procedure is
open in front of a position when the last boundary before the position opens one, and a line of code
is a main line unless it is a definition or a calculation of an open procedure.  The checks keep
track of this with one bit from line to line; the equations at the successor of a position say how
that bit changes.

## Main definitions

* `Line.Opens`, `Line.Closes` — the lines that begin and end a procedure.
* `InsideBefore` — a procedure is open in front of a position.
* `MainAt`, `LastMainBefore` — the main lines, and the last one in front of a position.

## Main results

* `insideBefore_succ`, `lastMainBefore_succ` — one line further.
* `insideProcedureAfter_iff` — the bit that the checks keep.
-/

namespace RpgLint

/-! ### Boundaries -/

/-- A line of code of type `P` that reaches column 24, holds all of its name, and has one of the
letters in column 24. -/
structure Line.HasBoundaryLetter (line : Line) (letters : List Char) : Prop where
  /-- The line is code. -/
  code : line.isCode
  /-- It is of type `P`. -/
  procedure : line.spec = .procedure
  /-- Its name does not go on in the next line. -/
  wholeName : continuesName line.raw = false
  /-- It reaches column 24. -/
  reaches : 24 ≤ line.length
  /-- One of the letters stands in column 24. -/
  letter : ∃ c ∈ letters, charAt? line.raw 23 = some c

/-- The line begins a procedure. -/
def Line.Opens (line : Line) : Prop := line.HasBoundaryLetter ['B', 'b']

/-- The line ends a procedure. -/
def Line.Closes (line : Line) : Prop := line.HasBoundaryLetter ['E', 'e']

/-- The condition under which column 24 is looked at. -/
theorem Line.boundary_guard_iff (line : Line) :
    (line.isCode && line.spec == .procedure && !continuesName line.raw && 24 ≤ line.length) ↔
      line.isCode ∧ line.spec = .procedure ∧ continuesName line.raw = false ∧ 24 ≤ line.length := by
  simp [and_assoc]

/-- The letters in column 24 that mark a boundary. -/
def Boundary.letters : Boundary → List Char
  | .opens => ['B', 'b']
  | .closes => ['E', 'e']

theorem Line.boundary?_eq_some_iff (line : Line) (boundary : Boundary) :
    line.boundary? = some boundary ↔ line.HasBoundaryLetter boundary.letters := by
  unfold Line.boundary?
  constructor
  · intro h
    split at h
    · next hguard =>
      obtain ⟨hcode, hspec, hname, hlength⟩ := (line.boundary_guard_iff).mp hguard
      refine ⟨hcode, hspec, hname, hlength, ?_⟩
      -- a letter in either case, and no other character
      split at h
      · next hat => cases h; exact ⟨'B', by decide, hat⟩
      · next hat => cases h; exact ⟨'b', by decide, hat⟩
      · next hat => cases h; exact ⟨'E', by decide, hat⟩
      · next hat => cases h; exact ⟨'e', by decide, hat⟩
      · cases h
    · cases h
  · rintro ⟨hcode, hspec, hname, hlength, c, hc, hat⟩
    rw [if_pos ((line.boundary_guard_iff).mpr ⟨hcode, hspec, hname, hlength⟩),
      show Field.beginEnd.start = 23 from rfl, hat]
    cases boundary with
    | opens =>
      rcases List.mem_pair.mp hc with rfl | rfl <;> rfl
    | closes =>
      rcases List.mem_pair.mp hc with rfl | rfl <;> rfl

theorem Line.boundary?_eq_opens_iff (line : Line) : line.boundary? = some .opens ↔ line.Opens :=
  line.boundary?_eq_some_iff .opens

theorem Line.boundary?_eq_closes_iff (line : Line) :
    line.boundary? = some .closes ↔ line.Closes :=
  line.boundary?_eq_some_iff .closes

/-- After a line a procedure is open when the line opens one, or when one was open and the line does
not end it. -/
theorem insideProcedureAfter_iff (inside : Bool) (line : Line) :
    insideProcedureAfter inside line ↔ line.Opens ∨ ¬ line.Closes ∧ inside := by
  unfold insideProcedureAfter
  rw [← line.boundary?_eq_opens_iff, ← line.boundary?_eq_closes_iff]
  cases line.boundary? with
  | none => simp
  | some boundary => cases boundary <;> simp

/-- Only code is a boundary. -/
theorem insideProcedureAfter_of_not_code (inside : Bool) {line : Line} (h : line.isCode = false) :
    insideProcedureAfter inside line = inside := by
  unfold insideProcedureAfter Line.boundary?
  simp [h]

/-! ### Positions -/

/-- A procedure is open in front of position `n`: the last boundary before it opens one. -/
def InsideBefore (lines : List Line) (n : Nat) : Prop :=
  ∃ i opener, i < n ∧ lines[i]? = some opener ∧ opener.Opens ∧
    ∀ j next, i < j → j < n → lines[j]? = some next → ¬ next.Opens ∧ ¬ next.Closes

theorem not_insideBefore_zero (lines : List Line) : ¬ InsideBefore lines 0 := by
  rintro ⟨i, -, hi, -⟩
  exact absurd hi (Nat.not_lt_zero i)

/-- One line further, the line itself decides when it is a boundary, and all stays as it was
otherwise. -/
theorem insideBefore_succ {lines : List Line} {n : Nat} {line : Line} (h : lines[n]? = some line) :
    InsideBefore lines (n + 1) ↔ line.Opens ∨ ¬ line.Closes ∧ InsideBefore lines n := by
  constructor
  · rintro ⟨i, opener, hi, hat, hopens, hlast⟩
    rcases Nat.lt_or_ge i n with hlt | hge
    · -- the opening line stands before `line`, which then is no boundary
      obtain ⟨-, hcloses⟩ := hlast n line hlt (Nat.lt_succ_self n) h
      refine Or.inr ⟨hcloses, i, opener, hlt, hat, hopens, ?_⟩
      intro j next hij hjn
      exact hlast j next hij (Nat.lt_succ_of_lt hjn)
    · -- the opening line is `line` itself
      have hin : i = n := by omega
      rw [hin, h] at hat
      obtain rfl : line = opener := Option.some.inj hat
      exact Or.inl hopens
  · intro hcase
    by_cases hopens : line.Opens
    · -- nothing stands between the line and the position behind it
      refine ⟨n, line, Nat.lt_succ_self n, h, hopens, ?_⟩
      intro j next hnj hjn
      omega
    · obtain ⟨hcloses, i, opener, hin, hat, hopener, hlast⟩ := hcase.resolve_left hopens
      refine ⟨i, opener, Nat.lt_succ_of_lt hin, hat, hopener, ?_⟩
      intro j next hij hjn hnext
      rcases Nat.lt_or_ge j n with hlt | hge
      · exact hlast j next hij hlt hnext
      · have hjn' : j = n := by omega
        rw [hjn', h] at hnext
        obtain rfl : line = next := Option.some.inj hnext
        exact ⟨hopens, hcloses⟩

/-- The line at position `i` belongs to the main section: it is code, and no definition or
calculation of an open procedure.  A boundary counts as part of the procedure that it opens. -/
def MainAt (lines : List Line) (i : Nat) (line : Line) : Prop :=
  lines[i]? = some line ∧ line.isCode ∧
    ¬ ((line.spec = .definition ∨ line.spec = .calculation) ∧ InsideBefore lines (i + 1))

/-- The last main line in front of position `n`. -/
def LastMainBefore (lines : List Line) (n : Nat) (last : Line) : Prop :=
  ∃ i, i < n ∧ MainAt lines i last ∧ ∀ j line, j < n → MainAt lines j line → j ≤ i

theorem not_lastMainBefore_zero (lines : List Line) (last : Line) :
    ¬ LastMainBefore lines 0 last := by
  rintro ⟨i, hi, -⟩
  exact absurd hi (Nat.not_lt_zero i)

/-- One line further, the line itself is the last main line if it is one. -/
theorem lastMainBefore_succ {lines : List Line} {n : Nat} {line : Line} (h : lines[n]? = some line)
    (last : Line) :
    LastMainBefore lines (n + 1) last ↔
      MainAt lines n line ∧ last = line ∨ ¬ MainAt lines n line ∧ LastMainBefore lines n last := by
  constructor
  · rintro ⟨i, hi, hmain, hlast⟩
    rcases Nat.lt_or_ge i n with hlt | hge
    · refine Or.inr ⟨?_, i, hlt, hmain, fun j other hj => hlast j other (Nat.lt_succ_of_lt hj)⟩
      intro hline
      have := hlast n line (Nat.lt_succ_self n) hline
      omega
    · -- the line itself is the last one
      have hin : i = n := by omega
      subst hin
      obtain rfl : line = last := Option.some.inj (h.symm.trans hmain.1)
      exact Or.inl ⟨hmain, rfl⟩
  · rintro (⟨hmain, rfl⟩ | ⟨hnot, i, hin, hmain, hlast⟩)
    · exact ⟨n, Nat.lt_succ_self n, hmain, fun j other hj _ => Nat.le_of_lt_succ hj⟩
    · refine ⟨i, Nat.lt_succ_of_lt hin, hmain, ?_⟩
      intro j other hj hother
      rcases Nat.lt_or_ge j n with hlt | hge
      · exact hlast j other hlt hother
      · have hjn : j = n := by omega
        subst hjn
        obtain rfl : line = other := Option.some.inj (h.symm.trans hother.1)
        exact absurd hother hnot

/-- In front of a position behind some main line there is a last one. -/
theorem exists_lastMainBefore {lines : List Line} {i : Nat} {line : Line}
    (h : MainAt lines i line) :
    ∀ {n : Nat}, i < n → ∃ k last, i ≤ k ∧ k < n ∧ MainAt lines k last ∧
      LastMainBefore lines n last := by
  intro n hin
  induction n with
  | zero => exact absurd hin (Nat.not_lt_zero i)
  | succ n ih =>
    by_cases hmain : ∃ other, MainAt lines n other
    · -- position `n` holds a main line, which is the last one
      obtain ⟨other, hother⟩ := hmain
      refine ⟨n, other, Nat.le_of_lt_succ hin, Nat.lt_succ_self n, hother, n, Nat.lt_succ_self n,
        hother, ?_⟩
      intro j _ hj _
      exact Nat.le_of_lt_succ hj
    · -- position `n` itself holds no main line, so `i` stands before it
      have hlt : i < n := by
        rcases Nat.lt_or_ge i n with hlt | hge
        · exact hlt
        · have hieq : i = n := by omega
          exact absurd ⟨line, hieq ▸ h⟩ hmain
      obtain ⟨k, last, hik, hkn, hk, m, hm, hmainm, hlast⟩ := ih hlt
      refine ⟨k, last, hik, Nat.lt_succ_of_lt hkn, hk, m, Nat.lt_succ_of_lt hm, hmainm, ?_⟩
      intro j other hj hother
      rcases Nat.lt_or_ge j n with hjn | hge
      · exact hlast j other hjn hother
      · have hjn : j = n := by omega
        exact absurd ⟨other, hjn ▸ hother⟩ hmain

end RpgLint
