import Mathlib.Data.Set.Card
import RpgLint.Line.Span
import RpgLint.Text.DoubleByte

/-!
# Runs of double-byte characters

The length of a text in bytes and the number of its framing bytes are counted in two passes of their
own, each with a bit that says whether a run is open.  Here a run is told by positions: double-byte
characters side by side, with none in front of them and none behind them.  Every such run is counted
once, where it begins, and both passes agree on what it costs: two bytes of framing, and one byte
more for each of its characters.

## Main definitions

* `Chars.DoubleByteAt`, `Chars.IsRun` — double-byte characters and their runs, by position.
* `Chars.startsRun` — a text begins with a run, unless one is open in front of it.
* `Chars.runOpenAfter` — whether a text leaves a run open.
* `Chars.RunBegins` — the positions where runs are counted.

## Main results

* `Chars.encard_isRun` — runs are counted once each.
* `Chars.bytesAfter_eq` — bytes, told from the characters, the double-byte ones among them, and the
  runs.
* `Chars.bytesAfter_append` — what two texts need less when they are written as one.
* `LengthAnalysis.describes_of` — the lengths of a text fit together.
-/

namespace RpgLint

namespace Chars

/-! ### Runs by position -/

/-- A double-byte character stands at the position. -/
def DoubleByteAt (cs : List Char) (i : ℕ) : Prop := ∃ c, cs[i]? = some c ∧ isDoubleByte c = true

/-- Double-byte characters stand from position `start` up to but not including `stop`, and none
right in front of them or right behind them. -/
structure IsRun (cs : List Char) (start stop : ℕ) : Prop where
  /-- There is one. -/
  nonempty : start < stop
  /-- All of them are double-byte characters. -/
  within : ∀ i, start ≤ i → i < stop → DoubleByteAt cs i
  /-- None stands right in front of them. -/
  begins : ∀ i, i + 1 = start → ¬ DoubleByteAt cs i
  /-- None stands right behind them. -/
  ends : ¬ DoubleByteAt cs stop

/-- A run is counted at the position, when the characters in front of the text leave one open
(`inRun`) or not: a double-byte character stands there, and none right in front of it. -/
def RunBegins (inRun : Bool) (cs : List Char) (i : ℕ) : Prop :=
  DoubleByteAt cs i ∧ (i = 0 → inRun = false) ∧ ∀ j, j + 1 = i → ¬ DoubleByteAt cs j

theorem not_doubleByteAt_nil (i : ℕ) : ¬ DoubleByteAt [] i := by
  rintro ⟨c, hat, -⟩
  cases hat

theorem doubleByteAt_cons_zero {c : Char} {cs : List Char} :
    DoubleByteAt (c :: cs) 0 ↔ isDoubleByte c = true := by
  simp [DoubleByteAt]

theorem doubleByteAt_cons_succ {c : Char} {cs : List Char} {i : ℕ} :
    DoubleByteAt (c :: cs) (i + 1) ↔ DoubleByteAt cs i := Iff.rfl

theorem lt_length_of_doubleByteAt {cs : List Char} {i : ℕ} (h : DoubleByteAt cs i) :
    i < cs.length := by
  obtain ⟨c, hat, -⟩ := h
  exact (List.getElem?_eq_some_iff.mp hat).1

/-- Each run is counted where it begins. -/
theorem IsRun.runBegins {cs : List Char} {start stop : ℕ} (h : IsRun cs start stop) :
    RunBegins false cs start :=
  ⟨h.within start le_rfl h.nonempty, fun _ => rfl, h.begins⟩

/-- Runs that begin together end together. -/
theorem IsRun.stop_le {cs : List Char} {start stop other : ℕ} (h : IsRun cs start stop)
    (hother : IsRun cs start other) : other ≤ stop := by
  by_contra hlt
  exact h.ends (hother.within stop h.nonempty.le (by omega))

/-- What is counted is a run: it goes on up to the next character of another kind, or to the end of
the text. -/
theorem exists_isRun {cs : List Char} {start : ℕ} (h : RunBegins false cs start) :
    ∃ stop, IsRun cs start stop := by
  classical
  obtain ⟨hat, -, hbegins⟩ := h
  -- the text ends somewhere, so there is a first position where the run has ended
  have hends : ∃ stop, start ≤ stop ∧ ¬ DoubleByteAt cs stop :=
    ⟨cs.length, (lt_length_of_doubleByteAt hat).le, fun hlast =>
      absurd (lt_length_of_doubleByteAt hlast) (lt_irrefl _)⟩
  have hfirst := Nat.find_spec hends
  refine ⟨Nat.find hends, ?_, ?_, hbegins, hfirst.2⟩
  · refine lt_of_le_of_ne hfirst.1 fun heq => hfirst.2 ?_
    rwa [← heq]
  · intro i hi hlt
    by_contra hnot
    exact Nat.find_min hends hlt ⟨hi, hnot⟩

/-- Runs correspond to the positions where they are counted. -/
theorem image_fst_isRun (cs : List Char) :
    Prod.fst '' {run : ℕ × ℕ | IsRun cs run.1 run.2} = {i | RunBegins false cs i} := by
  ext start
  constructor
  · rintro ⟨run, hrun, rfl⟩
    exact IsRun.runBegins hrun
  · intro hbegins
    obtain ⟨stop, hrun⟩ := exists_isRun hbegins
    exact ⟨(start, stop), hrun, rfl⟩

theorem injOn_fst_isRun (cs : List Char) :
    Set.InjOn Prod.fst {run : ℕ × ℕ | IsRun cs run.1 run.2} := by
  rintro ⟨start, stop⟩ hrun ⟨start', stop'⟩ hrun' heq
  obtain rfl : start = start' := heq
  -- each of the two ends no later than the other
  have hstop : stop = stop' := le_antisymm (IsRun.stop_le hrun' hrun) (IsRun.stop_le hrun hrun')
  rw [hstop]

/-- One character further: a run is counted there if it is the first double-byte character, and the
positions behind it move by one. -/
theorem runBegins_cons (inRun : Bool) (c : Char) (cs : List Char) :
    {i | RunBegins inRun (c :: cs) i} =
      {i | i = 0 ∧ isDoubleByte c = true ∧ inRun = false} ∪
        Nat.succ '' {i | RunBegins (isDoubleByte c) cs i} := by
  ext i
  cases i with
  | zero => simp [RunBegins, doubleByteAt_cons_zero]
  | succ i =>
    -- in front of position 1 stands the first character, and the bit tells what it is
    have hfront : ¬ DoubleByteAt (c :: cs) i ↔
        (i = 0 → isDoubleByte c = false) ∧ ∀ j, j + 1 = i → ¬ DoubleByteAt cs j := by
      cases i with
      | zero => simp [doubleByteAt_cons_zero]
      | succ i => simp [doubleByteAt_cons_succ]
    simp [RunBegins, doubleByteAt_cons_succ, hfront]

/-- The count of runs is the number of positions where one begins. -/
theorem encard_runBegins (inRun : Bool) (cs : List Char) :
    {i | RunBegins inRun cs i}.encard = runsAfter inRun cs := by
  induction cs generalizing inRun with
  | nil =>
    have hnone : {i | RunBegins inRun [] i} = ∅ :=
      Set.eq_empty_of_forall_notMem fun i hi => not_doubleByteAt_nil i hi.1
    rw [hnone, Set.encard_empty]
    rfl
  | cons c cs ih =>
    -- a run counted at the first position is not counted again among those behind it
    have hdisjoint : Disjoint {i | i = 0 ∧ isDoubleByte c = true ∧ inRun = false}
        (Nat.succ '' {i | RunBegins (isDoubleByte c) cs i}) := by
      rw [Set.disjoint_left]
      rintro i ⟨rfl, -⟩ ⟨j, -, hj⟩
      exact Nat.succ_ne_zero j hj
    have hfirst : {i : ℕ | i = 0 ∧ isDoubleByte c = true ∧ inRun = false}.encard =
        ((if isDoubleByte c && !inRun then 1 else 0 : ℕ) : ℕ∞) := by
      cases hc : isDoubleByte c <;> cases inRun <;> simp
    rw [runBegins_cons, Set.encard_union_eq hdisjoint, hfirst,
      Function.Injective.encard_image Nat.succ_injective, ih, runsAfter, Nat.cast_add]

/-- **Runs are counted once each.** -/
theorem encard_isRun (cs : List Char) :
    {run : ℕ × ℕ | IsRun cs run.1 run.2}.encard = runsAfter false cs := by
  rw [← encard_runBegins, ← image_fst_isRun, (injOn_fst_isRun cs).encard_image]

/-! ### Bytes -/

/-- **What the bytes are made of.**  A character takes one byte, a double-byte character one more,
and a run two; the closing byte of a run that is open in front of the text falls to the text. -/
theorem bytesAfter_eq (inRun : Bool) (cs : List Char) :
    bytesAfter inRun cs =
      cs.length + cs.countP isDoubleByte + 2 * runsAfter inRun cs + if inRun then 1 else 0 := by
  induction cs generalizing inRun with
  | nil => cases inRun <;> rfl
  | cons c cs ih =>
    cases hc : isDoubleByte c <;> cases inRun <;>
      simp [bytesAfter, runsAfter, hc, ih] <;> omega

/-! ### Texts written as one -/

/-- A run is open behind the text, when one is open in front of it (`inRun`) or not. -/
def runOpenAfter (inRun : Bool) (cs : List Char) : Bool := (cs.getLast?.map isDoubleByte).getD inRun

/-- The text begins with a double-byte character. -/
def startsRun (cs : List Char) : Bool := (cs.head?.map isDoubleByte).getD false

theorem runOpenAfter_cons (inRun : Bool) (c : Char) (cs : List Char) :
    runOpenAfter inRun (c :: cs) = runOpenAfter (isDoubleByte c) cs := by
  unfold runOpenAfter
  rw [List.getLast?_cons]
  cases cs.getLast? <;> rfl

/-- The second text is counted behind what the first one leaves open. -/
theorem runsAfter_append (inRun : Bool) (a b : List Char) :
    runsAfter inRun (a ++ b) = runsAfter inRun a + runsAfter (runOpenAfter inRun a) b := by
  induction a generalizing inRun with
  | nil => simp [runsAfter, runOpenAfter]
  | cons c cs ih =>
    rw [List.cons_append, runsAfter, ih, runsAfter, runOpenAfter_cons, Nat.add_assoc]

/-- The run that a text begins with is not counted when it goes on with an open one. -/
theorem runsAfter_add (inRun : Bool) (cs : List Char) :
    (runsAfter inRun cs + if inRun && startsRun cs then 1 else 0) = runsAfter false cs := by
  cases cs with
  | nil => cases inRun <;> rfl
  | cons c cs =>
    cases hc : isDoubleByte c <;> cases inRun <;> simp [runsAfter, startsRun, hc, Nat.add_comm]

/-- **Two texts written as one** need the framing of one run less exactly when a run goes on from
the first into the second. -/
theorem bytesAfter_append (a b : List Char) :
    (bytesAfter false (a ++ b) + if runOpenAfter false a && startsRun b then 2 else 0) =
      bytesAfter false a + bytesAfter false b := by
  have hruns := runsAfter_add (runOpenAfter false a) b
  have hjoined := runsAfter_append false a b
  rw [bytesAfter_eq, bytesAfter_eq, bytesAfter_eq, List.length_append, List.countP_append, hjoined]
  -- both texts are counted by their runs, so what is left is to count the shared run once
  cases hjoin : runOpenAfter false a && startsRun b <;> simp [hjoin] at hruns ⊢ <;> omega

end Chars

/-! ### Texts -/

/-- The text ends with a double-byte character. -/
def endsDoubleByte (s : String) : Bool := Chars.runOpenAfter false s.toList

/-- The text begins with a double-byte character. -/
def startsDoubleByte (s : String) : Bool := Chars.startsRun s.toList

/-- The length in bytes is the length in characters, and what double-byte characters and their
framing add to it. -/
theorem byteLength_eq (s : String) :
    byteLength s = charLength s + doubleByteCount s + shiftCharacters s := by
  rw [byteLength, Chars.bytesAfter_eq, charLength, doubleByteCount, shiftCharacters]
  rfl

/-- Each run is framed by two bytes. -/
theorem shiftCharacters_eq (s : String) :
    shiftCharacters s = 2 * {run : ℕ × ℕ | Chars.IsRun s.toList run.1 run.2}.encard := by
  rw [Chars.encard_isRun, shiftCharacters, Nat.cast_mul]
  rfl

theorem byteLength_append (a b : String) :
    (byteLength (a ++ b) + if endsDoubleByte a && startsDoubleByte b then 2 else 0) =
      byteLength a + byteLength b := by
  unfold byteLength endsDoubleByte startsDoubleByte
  rw [String.toList_append]
  exact Chars.bytesAfter_append a.toList b.toList

theorem hasDoubleByte_eq_false_iff (s : String) :
    hasDoubleByte s = false ↔ doubleByteCount s = 0 := by
  rw [hasDoubleByte, doubleByteCount, List.any_eq_false, List.countP_eq_zero]

/-- Without double-byte characters there is nothing to frame. -/
theorem shiftCharacters_eq_zero {s : String} (h : hasDoubleByte s = false) :
    shiftCharacters s = 0 := by
  have hnone : ∀ c ∈ s.toList, isDoubleByte c = false := by simpa [hasDoubleByte] using h
  -- whether a run is open or not, so that the induction goes through
  have hruns : ∀ (inRun : Bool) (cs : List Char), (∀ c ∈ cs, isDoubleByte c = false) →
      Chars.runsAfter inRun cs = 0 := by
    intro inRun cs hcs
    induction cs generalizing inRun with
    | nil => rfl
    | cons c cs ih =>
      obtain ⟨hc, hcs⟩ := List.forall_mem_cons.mp hcs
      simp [Chars.runsAfter, hc, ih false hcs]
  rw [shiftCharacters, hruns false s.toList hnone]

/-- A text takes more bytes than characters exactly when some character takes two. -/
theorem byteLength_eq_charLength_iff (s : String) :
    byteLength s = charLength s ↔ hasDoubleByte s = false := by
  rw [byteLength_eq]
  constructor
  · intro heq
    exact (hasDoubleByte_eq_false_iff s).mpr (by omega)
  · intro hnone
    rw [shiftCharacters_eq_zero hnone, (hasDoubleByte_eq_false_iff s).mp hnone, Nat.add_zero]

/-- Lengths that are those of a text. -/
structure LengthAnalysis.Describes (lengths : LengthAnalysis) (s : String) : Prop where
  /-- The length in characters. -/
  total : lengths.totalLength = charLength s
  /-- The length in bytes. -/
  bytes : lengths.byteLength = RpgLint.byteLength s
  /-- The characters that take two bytes. -/
  doubleByte : lengths.doubleByteCount = RpgLint.doubleByteCount s
  /-- Each character takes two bytes or one. -/
  parts : lengths.singleByteCount + lengths.doubleByteCount = lengths.totalLength
  /-- The framing bytes. -/
  framing : lengths.shiftCharacters = RpgLint.shiftCharacters s
  /-- Some character takes two bytes. -/
  hasDoubleByte : lengths.hasDoubleByte = true ↔ 0 < lengths.doubleByteCount

/-- **The lengths of a text fit together.** -/
theorem LengthAnalysis.describes_of (s : String) : (LengthAnalysis.of s).Describes s where
  total := rfl
  bytes := rfl
  doubleByte := rfl
  parts := Nat.sub_add_cancel List.countP_le_length
  framing := rfl
  hasDoubleByte := by
    show RpgLint.hasDoubleByte s = true ↔ 0 < RpgLint.doubleByteCount s
    rw [Nat.pos_iff_ne_zero, Ne, ← hasDoubleByte_eq_false_iff, Bool.not_eq_false]

end RpgLint
