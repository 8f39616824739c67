import Mathlib.Data.List.Basic
import RpgLint.Check.FreeForm

/-!
# Free-form directives as brackets

A `/FREE` opens and an `/END-FREE` closes, and what stands between partners is nested.  The lines
that were read so far have a normal form that the check keeps up to date: nested lines, between them
first the closing directives without a partner and then the opening ones.  From this form everything
is read off: which directives have no partner, when all have one, and how many closing ones have
none.

## Main definitions

* `Nested` — lines whose directives fall into blocks.
* `Partners` — an opening and a closing directive with nested lines between them.
* `Unpartnered` — a directive without a partner.
* `openings`, `closings` — how many directives of each sort the lines have.
* `Leaves` — the normal form.

## Main results

* `Leaves.checkFrom` — what the check keeps, and what it reports.
* `Leaves.unpartneredIn_eq` — the normal form shows the directives without a partner.
* `Leaves.closesAtMost`, `Leaves.exists_prefix` — the greatest excess of closing directives.
* `checkFreeDirectives_matches_brackets` — the check reports the directives without a partner.
-/

namespace RpgLint

/-! ### Nested directives -/

/-- The directives on the lines fall into blocks, which a `/FREE` opens and an `/END-FREE` closes,
with nested lines inside. -/
inductive Nested : List Line → Prop
  /-- No lines. -/
  | nil : Nested []
  /-- A line without a directive. -/
  | skip {line : Line} {lines : List Line} (hnone : line.directive? = none)
      (hlines : Nested lines) : Nested (line :: lines)
  /-- A block with nested lines behind it. -/
  | block {opening closing : Line} {inner lines : List Line}
      (hopen : opening.directive? = some .free) (hinner : Nested inner)
      (hclose : closing.directive? = some .endFree) (hlines : Nested lines) :
      Nested (opening :: (inner ++ closing :: lines))

theorem Nested.append {front back : List Line} (hfront : Nested front) (hback : Nested back) :
    Nested (front ++ back) := by
  induction hfront with
  | nil => exact hback
  | skip hnone _ ih => exact .skip hnone ih
  | block hopen hinner hclose _ _ ih =>
    rw [List.cons_append, List.append_assoc, List.cons_append]
    exact .block hopen hinner hclose ih

/-- The lines begin with what ends a block that is open in front of them. -/
def ClosedIn (back : List Line) : Prop :=
  ∃ inner closing rest, back = inner ++ closing :: rest ∧ closing.directive? = some .endFree ∧
    Nested inner

/-- The lines end with a block that is open behind them. -/
def OpenedIn (front : List Line) : Prop :=
  ∃ rest opening inner, front = rest ++ opening :: inner ∧ opening.directive? = some .free ∧
    Nested inner

/-- The `/FREE` at one position and the `/END-FREE` at another are partners: the lines between them
are nested. -/
def Partners (lines : List Line) (i j : Nat) : Prop :=
  ∃ front opening inner closing back, lines = front ++ opening :: (inner ++ closing :: back) ∧
    opening.directive? = some .free ∧ closing.directive? = some .endFree ∧ Nested inner ∧
    i = front.length ∧ j = front.length + 1 + inner.length

/-- The line at the position is a directive without a partner. -/
def Unpartnered (lines : List Line) (i : Nat) : Prop :=
  (∃ line, lines[i]? = some line ∧ line.directive? ≠ none) ∧
    ∀ j, ¬Partners lines i j ∧ ¬Partners lines j i

section

variable {front back : List Line} {line : Line}

/-- The partner of an opening directive stands behind it. -/
theorem exists_partners_opening_iff :
    (∃ j, Partners (front ++ line :: back) front.length j) ↔
      line.directive? = some .free ∧ ClosedIn back := by
  constructor
  · rintro ⟨j, rest, opening, inner, closing, behind, hlines, hopen, hclose, hinner, hfront, -⟩
    obtain ⟨rfl, hline⟩ := List.append_inj hlines hfront
    obtain ⟨rfl, rfl⟩ := List.cons.inj hline
    exact ⟨hopen, inner, closing, behind, rfl, hclose, hinner⟩
  · rintro ⟨hopen, inner, closing, behind, rfl, hclose, hinner⟩
    exact ⟨_, front, line, inner, closing, behind, rfl, hopen, hclose, hinner, rfl, rfl⟩

/-- The partner of a closing directive stands in front of it. -/
theorem exists_partners_closing_iff :
    (∃ i, Partners (front ++ line :: back) i front.length) ↔
      line.directive? = some .endFree ∧ OpenedIn front := by
  constructor
  · rintro ⟨i, rest, opening, inner, closing, behind, hlines, hopen, hclose, hinner, -, hfront⟩
    rw [← List.cons_append, ← List.append_assoc] at hlines
    obtain ⟨rfl, hline⟩ := List.append_inj hlines (by simp; omega)
    obtain ⟨rfl, -⟩ := List.cons.inj hline
    exact ⟨hclose, rest, opening, inner, rfl, hopen, hinner⟩
  · rintro ⟨hclose, rest, opening, inner, rfl, hopen, hinner⟩
    exact ⟨_, rest, opening, inner, line, back, by simp, hopen, hclose, hinner, rfl, by simp; omega⟩

/-- A directive has no partner when what stands behind it does not close it, or what stands in front
of it leaves no block open. -/
theorem unpartnered_iff :
    Unpartnered (front ++ line :: back) front.length ↔
      line.directive? = some .free ∧ ¬ClosedIn back ∨
        line.directive? = some .endFree ∧ ¬OpenedIn front := by
  have hline :
      (∃ other, (front ++ line :: back)[front.length]? = some other ∧ other.directive? ≠ none) ↔
        line.directive? ≠ none := by
    simp
  rw [Unpartnered, hline, forall_and, ← not_exists, ← not_exists, exists_partners_opening_iff,
    exists_partners_closing_iff]
  cases line.directive? with
  | none => simp
  | some directive => cases directive <;> simp

end

/-! ### Counting directives -/

/-- The number of opening directives. -/
def openings (lines : List Line) : Nat := lines.countP (·.directive? == some .free)

/-- The number of closing directives. -/
def closings (lines : List Line) : Nat := lines.countP (·.directive? == some .endFree)

@[simp] theorem openings_nil : openings [] = 0 := rfl

@[simp] theorem closings_nil : closings [] = 0 := rfl

@[simp] theorem openings_append (front back : List Line) :
    openings (front ++ back) = openings front + openings back :=
  List.countP_append

@[simp] theorem closings_append (front back : List Line) :
    closings (front ++ back) = closings front + closings back :=
  List.countP_append

section

variable {line : Line} {lines : List Line}

theorem counts_cons_of_none (h : line.directive? = none) :
    openings (line :: lines) = openings lines ∧ closings (line :: lines) = closings lines := by
  simp [openings, closings, h]

theorem counts_cons_of_free (h : line.directive? = some .free) :
    openings (line :: lines) = openings lines + 1 ∧ closings (line :: lines) = closings lines := by
  simp [openings, closings, h]

theorem counts_cons_of_endFree (h : line.directive? = some .endFree) :
    openings (line :: lines) = openings lines ∧ closings (line :: lines) = closings lines + 1 := by
  simp [openings, closings, h]

end

/-- The lines never close more than `n` blocks that they did not open. -/
def ClosesAtMost (n : Nat) (lines : List Line) : Prop :=
  ∀ front, front <+: lines → closings front ≤ openings front + n

namespace ClosesAtMost

variable {n m : Nat} {front back : List Line} {line : Line}

theorem nil (n : Nat) : ClosesAtMost n [] := by
  intro front hfront
  rw [List.prefix_nil.mp hfront]
  exact Nat.zero_le _

theorem mono (h : ClosesAtMost n front) (hle : n ≤ m) : ClosesAtMost m front :=
  fun part hpart => Nat.le_trans (h part hpart) (Nat.add_le_add_left hle _)

/-- Behind lines that leave at least `m - n` blocks open, `m` may be closed. -/
theorem append (hfront : ClosesAtMost n front) (hback : ClosesAtMost m back)
    (hcounts : closings front + m ≤ openings front + n) : ClosesAtMost n (front ++ back) := by
  rintro part ⟨rest, hrest⟩
  rcases List.append_eq_append_iff.mp hrest with ⟨more, rfl, -⟩ | ⟨more, rfl, rfl⟩
  · exact hfront part (List.prefix_append _ _)
  · have hmore := hback more (List.prefix_append _ _)
    rw [closings_append, openings_append]
    omega

theorem skip (h : line.directive? = none) (hlines : ClosesAtMost n back) :
    ClosesAtMost n (line :: back) := by
  intro part hpart
  rcases List.prefix_cons_iff.mp hpart with rfl | ⟨more, rfl, hmore⟩
  · exact Nat.zero_le _
  · have hle := hlines more hmore
    rwa [(counts_cons_of_none h).1, (counts_cons_of_none h).2]

theorem opening (h : line.directive? = some .free) (hlines : ClosesAtMost (n + 1) back) :
    ClosesAtMost n (line :: back) := by
  intro part hpart
  rcases List.prefix_cons_iff.mp hpart with rfl | ⟨more, rfl, hmore⟩
  · exact Nat.zero_le _
  · have hle := hlines more hmore
    rw [(counts_cons_of_free h).1, (counts_cons_of_free h).2]
    omega

theorem closing (h : line.directive? = some .endFree) (hlines : ClosesAtMost n back) :
    ClosesAtMost (n + 1) (line :: back) := by
  intro part hpart
  rcases List.prefix_cons_iff.mp hpart with rfl | ⟨more, rfl, hmore⟩
  · exact Nat.zero_le _
  · have hle := hlines more hmore
    rw [(counts_cons_of_endFree h).1, (counts_cons_of_endFree h).2]
    omega

end ClosesAtMost

namespace Nested

variable {lines : List Line}

/-- Nested lines close as many blocks as they open. -/
theorem closings_eq (h : Nested lines) : closings lines = openings lines := by
  induction h with
  | nil => rw [closings_nil, openings_nil]
  | skip hnone _ ih => rw [(counts_cons_of_none hnone).1, (counts_cons_of_none hnone).2, ih]
  | block hopen _ hclose _ ihinner ihlines =>
    rw [(counts_cons_of_free hopen).1, (counts_cons_of_free hopen).2, openings_append,
      closings_append, (counts_cons_of_endFree hclose).1, (counts_cons_of_endFree hclose).2,
      ihinner, ihlines, Nat.add_assoc]

/-- Nested lines close only what they opened. -/
theorem closesAtMost (h : Nested lines) : ClosesAtMost 0 lines := by
  induction h with
  | nil => exact .nil 0
  | skip hnone _ ih => exact ih.skip hnone
  | block hopen hinner hclose _ ihinner ihlines =>
    have hcounts : closings _ + 1 ≤ openings _ + 1 :=
      Nat.le_of_eq (congrArg (· + 1) hinner.closings_eq)
    exact ((ihinner.mono (Nat.zero_le 1)).append (ihlines.closing hclose) hcounts).opening hopen

end Nested

/-- What opens a block stays open when the lines behind it close only what they opened. -/
theorem not_closedIn {back : List Line} (h : ClosesAtMost 0 back) : ¬ClosedIn back := by
  rintro ⟨inner, closing, rest, rfl, hclose, hinner⟩
  -- up to the line that closes the block, one more is closed than opened
  have hle := h (inner ++ [closing]) ⟨rest, by rw [List.append_assoc, List.singleton_append]⟩
  have hcounts : openings [closing] = 0 ∧ closings [closing] = 1 := counts_cons_of_endFree hclose
  rw [closings_append, openings_append, hcounts.1, hcounts.2, hinner.closings_eq] at hle
  exact absurd hle (Nat.not_succ_le_self _)

/-- What closes a block closes none when all blocks in front of it are closed, none of them late. -/
theorem not_openedIn {front : List Line} {n : Nat} (h : ClosesAtMost n front)
    (hall : closings front = openings front + n) : ¬OpenedIn front := by
  rintro ⟨rest, opening, inner, rfl, hopen, hinner⟩
  -- in front of the open block there are more closing directives than allowed
  have hle := h rest (List.prefix_append _ _)
  rw [closings_append, openings_append, (counts_cons_of_free hopen).1,
    (counts_cons_of_free hopen).2, hinner.closings_eq] at hall
  omega

/-! ### A step of the check -/

section

variable {line : Line} {pending lines : List Line}

theorem checkFreeDirectivesFrom_nil (pending : List Line) :
    checkFreeDirectivesFrom pending [] = pending.reverse.map unmatchedFree := rfl

theorem checkFreeDirectivesFrom_of_none (h : line.directive? = none) :
    checkFreeDirectivesFrom pending (line :: lines) = checkFreeDirectivesFrom pending lines := by
  rw [checkFreeDirectivesFrom.eq_def]
  simp only [h]

theorem checkFreeDirectivesFrom_of_free (h : line.directive? = some .free) :
    checkFreeDirectivesFrom pending (line :: lines) =
      checkFreeDirectivesFrom (line :: pending) lines := by
  rw [checkFreeDirectivesFrom.eq_def]
  simp only [h]

theorem checkFreeDirectivesFrom_of_endFree (h : line.directive? = some .endFree) :
    checkFreeDirectivesFrom pending (line :: lines) =
      (if pending = [] then [unmatchedEndFree line] else []) ++
        checkFreeDirectivesFrom pending.tail lines := by
  rw [checkFreeDirectivesFrom.eq_def]
  cases pending <;> simp [h]

end

/-! ### The normal form -/

/-- What the directives on the lines leave without a partner: first closing ones and then opening
ones, each with its position and the latter in reverse, and all other lines between them nested. -/
inductive Leaves : List Line → List (Line × Nat) → List (Line × Nat) → Prop
  /-- Nested lines leave nothing. -/
  | nested {lines : List Line} (h : Nested lines) : Leaves lines [] []
  /-- With no block open, a closing directive has no partner. -/
  | closing {front inner : List Line} {line : Line} {closed : List (Line × Nat)}
      (hfront : Leaves front closed []) (hclose : line.directive? = some .endFree)
      (hinner : Nested inner) :
      Leaves (front ++ line :: inner) (closed ++ [(line, front.length)]) []
  /-- An opening directive waits for its partner. -/
  | opening {front inner : List Line} {line : Line} {closed opened : List (Line × Nat)}
      (hfront : Leaves front closed opened) (hopen : line.directive? = some .free)
      (hinner : Nested inner) :
      Leaves (front ++ line :: inner) closed ((line, front.length) :: opened)

namespace Leaves

variable {front lines : List Line} {closed opened : List (Line × Nat)}

theorem append (h : Leaves front closed opened) (hlines : Nested lines) :
    Leaves (front ++ lines) closed opened := by
  cases h with
  | nested hfront => exact .nested (hfront.append hlines)
  | closing hfront hclose hinner =>
    rw [List.append_assoc, List.cons_append]
    exact .closing hfront hclose (hinner.append hlines)
  | opening hfront hopen hinner =>
    rw [List.append_assoc, List.cons_append]
    exact .opening hfront hopen (hinner.append hlines)

/-- The innermost open block is closed. -/
theorem close {line : Line} {top : Line × Nat} (h : Leaves front closed (top :: opened))
    (hclose : line.directive? = some .endFree) : Leaves (front ++ [line]) closed opened := by
  cases h with
  | opening hfront hopen hinner =>
    rw [List.append_assoc, List.cons_append]
    exact hfront.append (.block hopen hinner hclose .nil)

theorem nested_of_eq_nil (h : Leaves lines closed opened) (hclosed : closed = [])
    (hopened : opened = []) : Nested lines := by
  cases h with
  | nested h => exact h
  | closing => exact absurd hclosed (List.append_ne_nil_of_right_ne_nil _ (List.cons_ne_nil _ _))
  | opening => cases hopened

theorem directive?_of_mem_opened (h : Leaves lines closed opened) :
    ∀ p ∈ opened, p.1.directive? = some .free := by
  induction h with
  | nested => exact List.forall_mem_nil _
  | closing => exact List.forall_mem_nil _
  | opening _ hopen _ ih => exact List.forall_mem_cons.mpr ⟨hopen, ih⟩

theorem directive?_of_mem_closed (h : Leaves lines closed opened) :
    ∀ p ∈ closed, p.1.directive? = some .endFree := by
  induction h with
  | nested => exact List.forall_mem_nil _
  | closing _ hclose _ ih =>
    exact List.forall_mem_append.mpr ⟨ih, List.forall_mem_singleton.mpr hclose⟩
  | opening _ _ _ ih => exact ih

/-- **What the check keeps.**  Behind lines that were read, the open directives are those of the
normal form; the check reports each closing directive that is left when it comes to it, and the
opening ones that are left at the end. -/
theorem checkFrom (h : Leaves front closed opened) (lines : List Line) :
    ∃ more left, Leaves (front ++ lines) (closed ++ more) left ∧
      checkFreeDirectivesFrom (opened.map Prod.fst) lines =
        more.map (unmatchedEndFree ·.1) ++ left.reverse.map (unmatchedFree ·.1) := by
  induction lines generalizing front closed opened with
  | nil =>
    -- no line is left: what is open is reported
    refine ⟨[], opened, by simpa using h, ?_⟩
    rw [checkFreeDirectivesFrom_nil, ← List.map_reverse, List.map_map]
    rfl
  | cons line lines ih =>
    cases hline : line.directive? with
    | none =>
      rw [checkFreeDirectivesFrom_of_none hline, List.append_cons]
      exact ih (h.append (.skip hline .nil))
    | some directive =>
      cases directive with
      | free =>
        rw [checkFreeDirectivesFrom_of_free hline, List.append_cons]
        exact ih (h.opening hline .nil)
      | endFree =>
        rw [checkFreeDirectivesFrom_of_endFree hline]
        cases opened with
        | nil =>
          -- no block is open, so that the directive joins those that are left
          obtain ⟨more, left, hleaves, hissues⟩ := ih (h.closing hline .nil)
          refine ⟨(line, front.length) :: more, left, ?_,
            congrArg (unmatchedEndFree line :: ·) hissues⟩
          rwa [List.append_cons front, List.append_cons closed]
        | cons top opened =>
          -- the innermost open block is closed
          rw [List.append_cons]
          exact ih (h.close hline)

/-- What is closed and what is opened, balanced. -/
theorem counts (h : Leaves lines closed opened) :
    closings lines + opened.length = openings lines + closed.length := by
  induction h with
  | nested h => rw [h.closings_eq]
  | closing _ hclose hinner ih =>
    rw [closings_append, openings_append, (counts_cons_of_endFree hclose).1,
      (counts_cons_of_endFree hclose).2, hinner.closings_eq, List.length_append,
      List.length_singleton]
    rw [List.length_nil] at ih ⊢
    omega
  | opening _ hopen hinner ih =>
    rw [closings_append, openings_append, (counts_cons_of_free hopen).1,
      (counts_cons_of_free hopen).2, hinner.closings_eq, List.length_cons]
    omega

/-- No more blocks are closed without being open than closing directives are left. -/
theorem closesAtMost (h : Leaves lines closed opened) : ClosesAtMost closed.length lines := by
  induction h with
  | nested h => exact h.closesAtMost
  | @closing front inner line closed hfront hclose hinner ih =>
    have hcounts : closings front + 0 = openings front + closed.length := hfront.counts
    rw [List.length_append, List.length_singleton]
    exact (ih.mono (Nat.le_succ _)).append (hinner.closesAtMost.closing hclose) (by omega)
  | @opening front inner line closed opened hfront hopen hinner ih =>
    have hcounts := hfront.counts
    exact ih.append ((hinner.closesAtMost.mono (Nat.zero_le 1)).opening hopen) (by omega)

/-- As many are closed without being open, up to the last closing directive that is left. -/
theorem exists_prefix (h : Leaves lines closed opened) :
    ∃ front, front <+: lines ∧ closings front = openings front + closed.length := by
  induction h with
  | nested => exact ⟨[], List.nil_prefix, rfl⟩
  | @closing front inner line closed hfront hclose hinner ih =>
    have hcounts : closings front + 0 = openings front + closed.length := hfront.counts
    have hline : openings [line] = 0 ∧ closings [line] = 1 := counts_cons_of_endFree hclose
    refine ⟨front ++ [line], ⟨inner, by rw [List.append_assoc, List.singleton_append]⟩, ?_⟩
    rw [closings_append, openings_append, hline.1, hline.2, List.length_append,
      List.length_singleton]
    simp
    omega
  | opening _ _ _ ih =>
    obtain ⟨part, hpart, hcounts⟩ := ih
    exact ⟨part, hpart.trans (List.prefix_append _ _), hcounts⟩

end Leaves

/-! ### Directives without a partner -/

open Classical in
/-- The directives without a partner among the lines of a part that begins at a position, each with
its position. -/
noncomputable def unpartneredIn (whole : List Line) (n : Nat) (part : List Line) :
    List (Line × Nat) :=
  (part.zipIdx n).filter fun p => Unpartnered whole p.2

section

variable {whole front back part inner : List Line} {line : Line} {n : Nat}

theorem unpartneredIn_append (whole : List Line) (n : Nat) (front back : List Line) :
    unpartneredIn whole n (front ++ back) =
      unpartneredIn whole n front ++ unpartneredIn whole (n + front.length) back := by
  rw [unpartneredIn, List.zipIdx_append, List.filter_append]
  rfl

/-- A line that is no directive, or that has a partner, is passed over. -/
theorem unpartneredIn_cons_of_not (hwhole : whole = front ++ line :: back) (hn : front.length = n)
    (hfree : line.directive? = some .free → ClosedIn back)
    (hend : line.directive? = some .endFree → OpenedIn front) :
    unpartneredIn whole n (line :: part) = unpartneredIn whole (n + 1) part := by
  -- with what it needs on its side a directive has a partner
  have hnot : ¬Unpartnered whole n := by
    rw [hwhole, ← hn, unpartnered_iff]
    rintro (⟨hline, hback⟩ | ⟨hline, hfront⟩)
    · exact hback (hfree hline)
    · exact hfront (hend hline)
  rw [unpartneredIn, List.zipIdx_cons, List.filter_cons_of_neg (by simpa using hnot)]
  rfl

theorem unpartneredIn_cons (h : Unpartnered whole n) :
    unpartneredIn whole n (line :: part) = (line, n) :: unpartneredIn whole (n + 1) part := by
  rw [unpartneredIn, List.zipIdx_cons, List.filter_cons_of_pos (by simpa using h)]
  rfl

/-- In nested lines all directives have partners. -/
theorem Nested.unpartneredIn_eq_nil (h : Nested inner) (hwhole : whole = front ++ (inner ++ back))
    (hn : front.length = n) : unpartneredIn whole n inner = [] := by
  induction h generalizing front back n with
  | nil => rfl
  | @skip line lines hnone _ ih =>
    have hline : whole = front ++ line :: (lines ++ back) := hwhole
    have hlines : whole = (front ++ [line]) ++ (lines ++ back) := by simpa using hwhole
    rw [unpartneredIn_cons_of_not hline hn (by simp [hnone]) (by simp [hnone])]
    exact ih hlines (by simpa using hn)
  | @block opening closing inner lines hopen hinner hclose _ ihinner ihlines =>
    -- the places of both directives and of what stands between and behind them
    have hopening : whole = front ++ opening :: (inner ++ closing :: (lines ++ back)) := by
      simpa using hwhole
    have hbetween : whole = (front ++ [opening]) ++ (inner ++ closing :: (lines ++ back)) := by
      simpa using hwhole
    have hclosing : whole = (front ++ opening :: inner) ++ closing :: (lines ++ back) := by
      simpa using hwhole
    have hlines : whole = (front ++ opening :: inner ++ [closing]) ++ (lines ++ back) := by
      simpa using hwhole
    rw [unpartneredIn_cons_of_not hopening hn (fun _ => ⟨inner, closing, _, rfl, hclose, hinner⟩)
      (by simp [hopen]),
      unpartneredIn_append, ihinner hbetween (by simpa using hn),
      unpartneredIn_cons_of_not hclosing (by simp; omega) (by simp [hclose])
        (fun _ => ⟨front, opening, inner, rfl, hopen, hinner⟩)]
    exact ihlines hlines (by simp; omega)

theorem Nested.unpartneredIn_zero_eq_nil (h : Nested inner) (hwhole : whole = inner ++ back) :
    unpartneredIn whole 0 inner = [] :=
  h.unpartneredIn_eq_nil (hwhole.trans (List.nil_append _).symm) List.length_nil

end

/-- **The normal form shows the directives without a partner**, when no block is left open or the
lines behind close none. -/
theorem Leaves.unpartneredIn_eq {front : List Line} {closed opened : List (Line × Nat)}
    (h : Leaves front closed opened) {whole back : List Line} (hwhole : whole = front ++ back)
    (hback : opened = [] ∨ ClosesAtMost 0 back) :
    unpartneredIn whole 0 front = closed ++ opened.reverse := by
  induction h generalizing back with
  | nested h => exact h.unpartneredIn_zero_eq_nil hwhole
  | @closing front inner line closed hfront hclose hinner ih =>
    have hline : whole = front ++ line :: (inner ++ back) := by simpa using hwhole
    have hbehind : whole = (front ++ [line]) ++ (inner ++ back) := by simpa using hwhole
    -- no block is open in front of the closing directive
    have halone : Unpartnered whole front.length := by
      rw [hline, unpartnered_iff]
      exact .inr ⟨hclose, not_openedIn hfront.closesAtMost hfront.counts⟩
    rw [unpartneredIn_append, ih hline (.inl rfl), Nat.zero_add, unpartneredIn_cons halone,
      hinner.unpartneredIn_eq_nil hbehind (by simp)]
    simp
  | @opening front inner line closed opened hfront hopen hinner ih =>
    have hline : whole = front ++ line :: (inner ++ back) := by simpa using hwhole
    have hbehind : whole = (front ++ [line]) ++ (inner ++ back) := by simpa using hwhole
    have hrest : ClosesAtMost 0 (inner ++ back) :=
      hinner.closesAtMost.append (hback.resolve_left (List.cons_ne_nil _ _))
        (Nat.le_of_eq hinner.closings_eq)
    -- nothing behind the opening directive closes it
    have halone : Unpartnered whole front.length := by
      rw [hline, unpartnered_iff]
      exact .inl ⟨hopen, not_closedIn hrest⟩
    rw [unpartneredIn_append, ih hline (.inr ((hrest.mono (Nat.zero_le 1)).opening hopen)),
      Nat.zero_add, unpartneredIn_cons halone, hinner.unpartneredIn_eq_nil hbehind (by simp)]
    simp

/-- The finding on a directive without a partner. -/
def Line.unpartneredIssue (line : Line) : Issue :=
  if line.directive? = some .free then unmatchedFree line else unmatchedEndFree line

@[simp] theorem Line.line_unpartneredIssue (line : Line) :
    line.unpartneredIssue.line = line.number := by
  unfold unpartneredIssue
  split <;> rfl

/-- What is left is what has no partner. -/
theorem Leaves.unpartneredIssues_eq {lines : List Line} {closed opened : List (Line × Nat)}
    (h : Leaves lines closed opened) :
    closed.map (unmatchedEndFree ·.1) ++ opened.reverse.map (unmatchedFree ·.1) =
      (unpartneredIn lines 0 lines).map (·.1.unpartneredIssue) := by
  have hclosed : ∀ p ∈ closed, unmatchedEndFree p.1 = p.1.unpartneredIssue := by
    intro p hp
    rw [Line.unpartneredIssue, h.directive?_of_mem_closed p hp, if_neg (by decide)]
  have hopened : ∀ p ∈ opened.reverse, unmatchedFree p.1 = p.1.unpartneredIssue := by
    intro p hp
    rw [Line.unpartneredIssue, h.directive?_of_mem_opened p (List.mem_reverse.mp hp), if_pos rfl]
  rw [h.unpartneredIn_eq (List.append_nil lines).symm (.inr (.nil 0)), List.map_append,
    List.map_congr_left hclosed, List.map_congr_left hopened]

open Classical in
/-- **Free-form directives are brackets.**  Exactly the directives without a partner are reported,
each once, with the rule of its sort and in the order of the lines.  Nothing is reported exactly
when the directives are nested, and the number of closing directives that are reported is the
largest excess of closing directives over opening ones among the first lines, however many these
are. -/
theorem checkFreeDirectives_matches_brackets (lines : List Line) :
    checkFreeDirectives lines =
        (lines.zipIdx.filter fun p => Unpartnered lines p.2).map (·.1.unpartneredIssue) ∧
      ((checkFreeDirectives lines).map (·.line)).Sublist (lines.map (·.number)) ∧
      (checkFreeDirectives lines = [] ↔ Nested lines) ∧
      ∃ count, (checkFreeDirectives lines).countP (·.rule == "UNMATCHED_END_FREE") = count ∧
        (∀ front, front <+: lines → closings front ≤ openings front + count) ∧
        ∃ front, front <+: lines ∧ closings front = openings front + count := by
  obtain ⟨closed, opened, hleaves, hissues⟩ := (Leaves.nested .nil).checkFrom lines
  rw [List.nil_append, List.nil_append] at hleaves
  have hlone : checkFreeDirectives lines =
      (unpartneredIn lines 0 lines).map (·.1.unpartneredIssue) :=
    hissues.trans hleaves.unpartneredIssues_eq
  refine ⟨hlone, ?_, ⟨fun hnone => ?_, fun hnested => ?_⟩, closed.length, ?_, hleaves.closesAtMost,
    hleaves.exists_prefix⟩
  · -- the lines themselves, and of them those with directives that are left
    have hnumbers : lines.map (·.number) = lines.zipIdx.map (·.1.number) := by
      rw [← List.zipIdx_map_fst 0 lines, List.map_map, List.zipIdx_map_fst]
      rfl
    rw [hlone, List.map_map, hnumbers]
    simp only [Function.comp_def, Line.line_unpartneredIssue]
    exact List.filter_sublist.map _
  · -- nothing is reported, so that nothing is left
    rw [checkFreeDirectives, ← List.map_nil, hissues] at hnone
    obtain ⟨hclosed, hopened⟩ : closed = [] ∧ opened = [] := by simpa using hnone
    exact hleaves.nested_of_eq_nil hclosed hopened
  · rw [hlone, hnested.unpartneredIn_zero_eq_nil (List.append_nil lines).symm, List.map_nil]
  · -- the reported closing directives are those that are left
    rw [checkFreeDirectives, ← List.map_nil, hissues, List.countP_append, List.countP_map,
      List.countP_map]
    simp [Function.comp_def, unmatchedEndFree, unmatchedFree]

end RpgLint
