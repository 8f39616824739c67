import RpgLint.Check.Order
import RpgLint.Proofs.Check.MainSection

/-!
# Order of specifications

What is known after a line, a type with its place in the order and one bit, describes the whole
source so far: the bit says whether a procedure is open, and type and place are those of the last
main line.  With this invariant the findings `SPEC_ORDER` are exactly the descents of the main
section, each reported on the later line and against the main line right before it.

## Main definitions

* `SpecType.place` — the place of a type in the order H, F, D, P, I, C, O.
* `IsLast` — a value that is read off the last main line.
* `OrderState.Tracks` — the invariant.

## Main results

* `OrderState.step_of_counts`, `OrderState.step_of_not_counts` — what a step does.
* `OrderState.tracks_before` — the invariant holds in front of every position.
* `exists_descent` — a descent somewhere between two main lines that are in the wrong order.
* `checkOrder_reports_descents` — which lines are reported, and when none is.
-/

namespace RpgLint

/-- Place of a type in the mandatory order. -/
def SpecType.place (spec : SpecType) : Nat := SpecType.mandatoryOrder.idxOf spec

/-- Lines of code are of the types that have a place in the order. -/
theorem Line.orderIndex?_of_isCode {line : Line} (h : line.isCode) :
    line.spec.orderIndex? = some line.spec.place := by
  unfold Line.isCode at h
  cases hspec : line.spec with
  | free | comment | unknown => simp [hspec] at h
  | _ => rfl

namespace OrderState

/-! ### One step -/

/-- A line that takes part in the order when a procedure is open before it or not: code that is not
local. -/
def countsLine (inside : Bool) (line : Line) : Bool :=
  line.isCode && !line.isLocal (insideProcedureAfter inside line)

/-- **A line that takes part in the order** becomes the last one, and is reported against the one
that was the last so far if it should have come before it. -/
theorem step_of_counts {state : OrderState} {line : Line} (h : countsLine state.inProcedure line) :
    state.step line =
      ({ lastIndex? := some line.spec.place, lastType? := some line.spec
         inProcedure := insideProcedureAfter state.inProcedure line },
        state.descent? line line.spec.place) := by
  obtain ⟨hcode, hlocal⟩ := Bool.and_eq_true_iff.mp h
  rw [Bool.not_eq_true'] at hlocal
  simp only [step, hcode, hlocal, Line.orderIndex?_of_isCode hcode, Bool.not_true,
    Bool.false_eq_true, if_false]

/-- **Any other line** can only open or close a procedure. -/
theorem step_of_not_counts {state : OrderState} {line : Line}
    (h : countsLine state.inProcedure line = false) :
    state.step line =
      ({ state with inProcedure := insideProcedureAfter state.inProcedure line }, none) := by
  cases hcode : line.isCode with
  | false => simp [step, hcode, insideProcedureAfter_of_not_code _ hcode]
  | true =>
    have hlocal : line.isLocal (insideProcedureAfter state.inProcedure line) = true := by
      simpa [countsLine, hcode] using h
    simp [step, hcode, hlocal]

theorem step_inProcedure (state : OrderState) (line : Line) :
    (state.step line).1.inProcedure = insideProcedureAfter state.inProcedure line := by
  cases hcounts : countsLine state.inProcedure line with
  | true => rw [step_of_counts hcounts]
  | false => rw [step_of_not_counts hcounts]

/-- The finding on a line is against the last type, and comes with a line that takes part in the
order only. -/
theorem step_issue (state : OrderState) (line : Line) (issue : Issue) :
    (state.step line).2 = some issue ↔ countsLine state.inProcedure line ∧
      ∃ previous, state.lastType? = some previous ∧
        (∃ last, state.lastIndex? = some last ∧ line.spec.place < last) ∧
        issue = orderIssue line previous := by
  cases hcounts : countsLine state.inProcedure line with
  | false => simp [step_of_not_counts hcounts]
  | true =>
    rw [step_of_counts hcounts, descent?]
    cases hindex : state.lastIndex? with
    | none => simp
    | some last =>
      cases htype : state.lastType? with
      | none => simp
      | some previous => by_cases hdescent : line.spec.place < last <;> simp [hdescent, eq_comm]

end OrderState

/-! ### The last main line -/

/-- The value is read off the last main line in front of position `n`, and there is none if there is
no main line. -/
def IsLast {α : Type} (lines : List Line) (n : Nat) (f : Line → α) (value : Option α) : Prop :=
  ∀ a, value = some a ↔ ∃ line, LastMainBefore lines n line ∧ f line = a

section

variable {α : Type} {lines : List Line} {n : Nat} {line : Line} {f : Line → α} {value : Option α}

theorem isLast_zero : IsLast lines 0 f none := by
  simp [IsLast, not_lastMainBefore_zero]

/-- A main line is the last one behind it. -/
theorem isLast_of_mainAt (hmain : MainAt lines n line) :
    IsLast lines (n + 1) f (some (f line)) := by
  intro a
  constructor
  · intro hvalue
    exact ⟨line, (lastMainBefore_succ hmain.1 line).mpr (.inl ⟨hmain, rfl⟩), Option.some.inj hvalue⟩
  · -- no other line is the last one behind it
    rintro ⟨last, hlast, rfl⟩
    rcases (lastMainBefore_succ hmain.1 last).mp hlast with ⟨-, rfl⟩ | ⟨hnot, -⟩
    · rfl
    · exact absurd hmain hnot

/-- Behind any other line the last one is the same as in front of it. -/
theorem IsLast.of_not_mainAt (h : IsLast lines n f value) (hat : lines[n]? = some line)
    (hnot : ¬ MainAt lines n line) : IsLast lines (n + 1) f value := by
  intro a
  rw [h a]
  constructor
  · rintro ⟨last, hlast, hvalue⟩
    exact ⟨last, (lastMainBefore_succ hat last).mpr (.inr ⟨hnot, hlast⟩), hvalue⟩
  · rintro ⟨last, hlast, hvalue⟩
    rcases (lastMainBefore_succ hat last).mp hlast with ⟨hline, -⟩ | ⟨-, hbefore⟩
    · exact absurd hline hnot
    · exact ⟨last, hbefore, hvalue⟩

end

/-! ### The invariant -/

namespace OrderState

/-- The state in front of position `n` describes the lines before it. -/
structure Tracks (lines : List Line) (n : Nat) (state : OrderState) : Prop where
  /-- The bit says whether a procedure is open. -/
  inProcedure : state.inProcedure ↔ InsideBefore lines n
  /-- The type is that of the last main line. -/
  lastType : IsLast lines n Line.spec state.lastType?
  /-- The place is that of the same line. -/
  lastIndex : IsLast lines n (fun line => line.spec.place) state.lastIndex?

variable {lines : List Line} {n : Nat} {state : OrderState} {line : Line}

theorem tracks_zero (lines : List Line) : Tracks lines 0 {} where
  inProcedure := by simp [not_insideBefore_zero]
  lastType := isLast_zero
  lastIndex := isLast_zero

theorem Tracks.insideAfter (h : Tracks lines n state) (hat : lines[n]? = some line) :
    insideProcedureAfter state.inProcedure line ↔ InsideBefore lines (n + 1) := by
  rw [insideProcedureAfter_iff, insideBefore_succ hat, h.inProcedure]

/-- The lines that take part in the order are the main lines. -/
theorem Tracks.countsLine_iff (h : Tracks lines n state) (hat : lines[n]? = some line) :
    countsLine state.inProcedure line ↔ MainAt lines n line := by
  unfold countsLine Line.isLocal MainAt
  rw [← h.insideAfter hat]
  cases line.isCode <;> cases insideProcedureAfter state.inProcedure line <;> simp [hat]

/-- **The invariant is kept by a step.** -/
theorem Tracks.step (h : Tracks lines n state) (hat : lines[n]? = some line) :
    Tracks lines (n + 1) (state.step line).1 := by
  have hinside : (state.step line).1.inProcedure ↔ InsideBefore lines (n + 1) := by
    rw [step_inProcedure, h.insideAfter hat]
  cases hcounts : countsLine state.inProcedure line with
  | true =>
    -- the line is the last one now, in both of its values
    have hmain : MainAt lines n line := (h.countsLine_iff hat).mp hcounts
    refine ⟨hinside, ?_, ?_⟩ <;> rw [step_of_counts hcounts]
    · exact isLast_of_mainAt hmain
    · exact isLast_of_mainAt hmain
  | false =>
    have hnot : ¬ MainAt lines n line := fun hmain => by
      rw [(h.countsLine_iff hat).mpr hmain] at hcounts
      cases hcounts
    refine ⟨hinside, ?_, ?_⟩ <;> rw [step_of_not_counts hcounts]
    · exact h.lastType.of_not_mainAt hat hnot
    · exact h.lastIndex.of_not_mainAt hat hnot

/-- The state in front of position `n`. -/
def before (lines : List Line) (n : Nat) : OrderState :=
  (lines.take n).foldl (fun state line => (state.step line).1) {}

theorem before_succ (hat : lines[n]? = some line) :
    before lines (n + 1) = ((before lines n).step line).1 := by
  unfold before
  rw [List.take_add_one, hat, Option.toList_some, List.foldl_append]
  rfl

/-- **The invariant holds in front of every position.** -/
theorem tracks_before (lines : List Line) :
    ∀ n, n ≤ lines.length → Tracks lines n (before lines n) := by
  intro n
  induction n with
  | zero =>
    intro _
    exact tracks_zero lines
  | succ n ih =>
    intro hn
    have hat : lines[n]? = some lines[n] := List.getElem?_eq_getElem hn
    rw [before_succ hat]
    exact (ih (Nat.le_of_succ_le hn)).step hat

/-- **A line is reported when it is a main line that the main line before it should follow.** -/
theorem Tracks.issue_iff (h : Tracks lines n state) (hat : lines[n]? = some line) (issue : Issue) :
    (state.step line).2 = some issue ↔ MainAt lines n line ∧
      ∃ previous, LastMainBefore lines n previous ∧ line.spec.place < previous.spec.place ∧
        issue = orderIssue line previous.spec := by
  rw [step_issue, h.countsLine_iff hat]
  constructor
  · rintro ⟨hmain, spec, hspec, ⟨last, hindex, hdescent⟩, hissue⟩
    obtain ⟨previous, hprevious, rfl⟩ := (h.lastType spec).mp hspec
    -- the place that is kept is that of the line whose type is kept
    have hplace : state.lastIndex? = some previous.spec.place :=
      (h.lastIndex _).mpr ⟨previous, hprevious, rfl⟩
    rw [hindex, Option.some.injEq] at hplace
    exact ⟨hmain, previous, hprevious, hplace ▸ hdescent, hissue⟩
  · rintro ⟨hmain, previous, hprevious, hplace, hissue⟩
    exact ⟨hmain, previous.spec, (h.lastType _).mpr ⟨previous, hprevious, rfl⟩,
      ⟨_, (h.lastIndex _).mpr ⟨previous, hprevious, rfl⟩, hplace⟩, hissue⟩

/-! ### Runs -/

/-- The entry of a run at a position is the step from the state in front of it. -/
theorem getElem?_steps (lines : List Line) : ∀ (state : OrderState) (i : Nat),
    (steps state lines)[i]? =
      lines[i]?.map ((lines.take i).foldl (fun state line => (state.step line).1) state).step := by
  induction lines with
  | nil =>
    intro state i
    rfl
  | cons line lines ih =>
    intro state i
    cases i with
    | zero => rfl
    | succ i => exact ih (state.step line).1 i

theorem length_steps (lines : List Line) : ∀ state, (steps state lines).length = lines.length := by
  induction lines with
  | nil =>
    intro state
    rfl
  | cons line lines ih =>
    intro state
    simp [steps, ih]

theorem getElem?_steps_start (hat : lines[n]? = some line) :
    (steps {} lines)[n]? = some ((before lines n).step line) := by
  rw [getElem?_steps, hat]
  rfl

/-- In front of the position of a line the invariant holds. -/
theorem tracks_at (hat : lines[n]? = some line) : Tracks lines n (before lines n) :=
  tracks_before lines n (Nat.le_of_lt (List.getElem?_eq_some_iff.mp hat).1)

/-- Nothing is reported when no line of the run is. -/
theorem checkOrder_eq_nil_iff_steps (lines : List Line) :
    checkOrder lines = [] ↔
      ∀ n line, lines[n]? = some line → ((before lines n).step line).2 = none := by
  unfold checkOrder
  rw [List.filterMap_eq_nil_iff]
  constructor
  · intro h n line hat
    exact h _ (List.mem_of_getElem? (getElem?_steps_start hat))
  · intro h entry hmem
    obtain ⟨n, hn⟩ := List.mem_iff_getElem?.mp hmem
    -- every entry of the run belongs to a line
    have hlt : n < lines.length := by
      have := (List.getElem?_eq_some_iff.mp hn).1
      rwa [length_steps] at this
    have hat : lines[n]? = some lines[n] := List.getElem?_eq_getElem hlt
    rw [getElem?_steps_start hat, Option.some.injEq] at hn
    rw [← hn]
    exact h n _ hat

end OrderState

/-- The types of the main lines never go back in the mandatory order. -/
def MainAscending (lines : List Line) : Prop :=
  ∀ i j line next, i < j → MainAt lines i line → MainAt lines j next →
    line.spec.place ≤ next.spec.place

/-- Between two main lines of which the later one has to come before the earlier one, some main line
has to come before the main line right in front of it. -/
theorem exists_descent {lines : List Line} {i j : Nat} {line next : Line}
    (hline : MainAt lines i line) (hnext : MainAt lines j next) (hij : i < j)
    (hplace : next.spec.place < line.spec.place) :
    ∃ k later previous, i < k ∧ k ≤ j ∧ MainAt lines k later ∧ LastMainBefore lines k previous ∧
      later.spec.place < previous.spec.place := by
  -- induction on the later position: the main line right before it stands at `i` or behind
  induction j using Nat.strongRecOn generalizing next with
  | _ j ih =>
    obtain ⟨k, last, hik, hkj, hk, hlast⟩ := exists_lastMainBefore hline hij
    rcases Nat.lt_or_ge next.spec.place last.spec.place with hdescent | hascent
    · exact ⟨j, next, last, hij, Nat.le_refl j, hnext, hlast, hdescent⟩
    · have hlastPlace : last.spec.place < line.spec.place := Nat.lt_of_le_of_lt hascent hplace
      -- the main line that was found is not the first of the two, as it has another place
      have hne : i ≠ k := by
        rintro rfl
        obtain rfl : line = last := Option.some.inj (hline.1.symm.trans hk.1)
        exact absurd hlastPlace (Nat.lt_irrefl _)
      obtain ⟨m, later, previous, him, hmk, hfound⟩ :=
        ih k hkj hk (Nat.lt_of_le_of_ne hik hne) hlastPlace
      exact ⟨m, later, previous, him, Nat.le_trans hmk (Nat.le_of_lt hkj), hfound⟩

/-- It is enough to compare each main line with the one right before it. -/
theorem mainAscending_iff (lines : List Line) :
    MainAscending lines ↔ ∀ n line previous, MainAt lines n line → LastMainBefore lines n previous →
      previous.spec.place ≤ line.spec.place := by
  constructor
  · rintro h n line previous hmain ⟨i, hi, hprevious, -⟩
    exact h i n previous line hi hprevious hmain
  · intro h i j line next hij hline hnext
    by_contra hplace
    obtain ⟨k, later, previous, -, -, hlater, hprevious, hdescent⟩ :=
      exists_descent hline hnext hij (Nat.lt_of_not_le hplace)
    exact absurd (h k later previous hlater hprevious) (Nat.not_le_of_lt hdescent)

/-- **The findings on the order of specifications are the descents of the main section.**  The check
goes through the lines in order and reports at most once on each: on the main lines whose type has
to come before that of the main line right before them, naming both types.  After each line it knows
the place of the last main line so far.  So nothing is reported exactly when the types of the main
lines never go back. -/
theorem checkOrder_reports_descents (lines : List Line) :
    let run := OrderState.steps {} lines
    checkOrder lines = run.filterMap Prod.snd ∧ run.length = lines.length ∧
      (∀ n line, lines[n]? = some line → ∃ state found, run[n]? = some (state, found) ∧
        (∀ issue, found = some issue ↔ MainAt lines n line ∧
          ∃ previous, LastMainBefore lines n previous ∧ line.spec.place < previous.spec.place ∧
            issue = orderIssue line previous.spec) ∧
        (∀ k, state.lastIndex? = some k ↔
          ∃ last, LastMainBefore lines (n + 1) last ∧ last.spec.place = k)) ∧
      (∀ line previous, (orderIssue line previous).rule = "SPEC_ORDER" ∧
        (orderIssue line previous).line = line.number ∧
        (orderIssue line previous).message =
          line.spec.code ++ " specification appears after " ++ previous.code ++ " specification") ∧
      (checkOrder lines = [] ↔ MainAscending lines) := by
  intro run
  refine ⟨rfl, OrderState.length_steps lines {}, ?_, ?_, ?_⟩
  · intro n line hat
    have htracks := OrderState.tracks_at hat
    exact ⟨_, _, OrderState.getElem?_steps_start hat, htracks.issue_iff hat,
      (htracks.step hat).lastIndex⟩
  · intro line previous
    exact ⟨rfl, rfl, rfl⟩
  · rw [OrderState.checkOrder_eq_nil_iff_steps, mainAscending_iff]
    constructor
    · -- a descent would be reported on its line
      intro h n line previous hmain hprevious
      by_contra hplace
      have hreported := ((OrderState.tracks_at hmain.1).issue_iff hmain.1 _).mpr
        ⟨hmain, previous, hprevious, Nat.lt_of_not_le hplace, rfl⟩
      rw [h n line hmain.1] at hreported
      cases hreported
    · -- what is reported is a descent
      intro h n line hat
      rw [Option.eq_none_iff_forall_ne_some]
      intro issue hissue
      obtain ⟨hmain, previous, hprevious, hplace, -⟩ :=
        ((OrderState.tracks_at hat).issue_iff hat issue).mp hissue
      exact absurd (h n line previous hmain hprevious) (Nat.not_le_of_lt hplace)

end RpgLint
