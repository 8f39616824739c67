import RpgLint.Proofs.Check.Order
import RpgLint.Proofs.Check.RuleNames

/-!
# Definitions after calculations

The search for a late definition keeps its own bit for the open procedure, apart from that of the
check on the order of specifications, and stops at the first definition that it reports.  Both bits
say whether a procedure is open in front of a line, so the line that the search stops at is told by
the main section alone: it is the first main definition behind the first main calculation.  The
types of the main lines go back somewhere between the two, and the check on the order reports a line
there, although it need not be the definition.

## Main definitions

* `FirstMainFrom` — the first main line of a type from a position on.
* `LateDefinitionAt` — a first main calculation, and the first main definition behind it.
* `LateSearch` — the invariant of the search.

## Main results

* `lateDefinition?_eq_some_iff` — the line that the search stops at.
* `lateDefinition_within_disorder` — the finding, and a finding on the order that comes with it.
-/

namespace RpgLint

variable {lines : List Line}

/-- The first main line of the type that stands at position `start` or behind it. -/
structure FirstMainFrom (lines : List Line) (start : Nat) (spec : SpecType) (i : Nat)
    (line : Line) : Prop where
  /-- It does not stand before `start`. -/
  from_start : start ≤ i
  /-- It is a main line. -/
  main : MainAt lines i line
  /-- It is of the type. -/
  spec_eq : line.spec = spec
  /-- No main line of the type stands before it. -/
  first : ∀ k other, start ≤ k → k < i → MainAt lines k other → other.spec ≠ spec

theorem FirstMainFrom.unique {start : Nat} {spec : SpecType} {i j : Nat} {line other : Line}
    (h : FirstMainFrom lines start spec i line) (h' : FirstMainFrom lines start spec j other) :
    i = j ∧ line = other := by
  -- whichever came first would stand in front of the other
  have hij : i = j := by
    rcases Nat.lt_trichotomy i j with hlt | heq | hgt
    · exact absurd h.spec_eq (h'.first i line h.from_start hlt h.main)
    · exact heq
    · exact absurd h'.spec_eq (h.first j other h'.from_start hgt h'.main)
  subst hij
  exact ⟨rfl, Option.some.inj (h.main.1.symm.trans h'.main.1)⟩

/-- The first main calculation stands at position `i`, and at position `j` the first main definition
behind it. -/
structure LateDefinitionAt (lines : List Line) (i j : Nat) (calculation definition : Line) :
    Prop where
  /-- The calculation is the first one of the main section. -/
  calculation : FirstMainFrom lines 0 .calculation i calculation
  /-- The definition is the first one of the main section behind the calculation. -/
  definition : FirstMainFrom lines (i + 1) .definition j definition

theorem LateDefinitionAt.unique {i j i' j' : Nat} {c d c' d' : Line}
    (h : LateDefinitionAt lines i j c d) (h' : LateDefinitionAt lines i' j' c' d') :
    c = c' ∧ d = d' := by
  obtain ⟨rfl, hc⟩ := h.calculation.unique h'.calculation
  exact ⟨hc, (h.definition.unique h'.definition).2⟩

/-! ### The search -/

/-- What is known when the search arrives at position `n` with its bit and the number of a
calculation. -/
structure LateSearch (lines : List Line) (n : Nat) (inside : Bool) (calculation : Option Nat) :
    Prop where
  /-- The bit says whether a procedure is open. -/
  inside : inside ↔ InsideBefore lines n
  /-- Without a number, there is no main calculation yet. -/
  none_yet : calculation = none → ∀ k line, k < n → MainAt lines k line → line.spec ≠ .calculation
  /-- The number is that of the first main calculation, and no main definition stands behind it
  yet. -/
  first : ∀ number, calculation = some number → ∃ i c, i < n ∧
    FirstMainFrom lines 0 .calculation i c ∧ c.number = number ∧
      ∀ k line, i < k → k < n → MainAt lines k line → line.spec ≠ .definition

namespace LateSearch

variable {n : Nat} {inside : Bool} {calculation : Option Nat} {line : Line}

theorem start (lines : List Line) : LateSearch lines 0 false none where
  inside := by simp [not_insideBefore_zero]
  none_yet := fun _ k _ hk => absurd hk (Nat.not_lt_zero k)
  first := by simp

theorem insideAfter (h : LateSearch lines n inside calculation) (hat : lines[n]? = some line) :
    insideProcedureAfter inside line ↔ InsideBefore lines (n + 1) := by
  rw [insideProcedureAfter_iff, insideBefore_succ hat, h.inside]

/-- A line that is neither the first calculation nor a late definition is passed over. -/
theorem pass (h : LateSearch lines n inside calculation) (hat : lines[n]? = some line)
    (hnone : calculation = none → MainAt lines n line → line.spec ≠ .calculation)
    (hsome : calculation ≠ none → MainAt lines n line → line.spec ≠ .definition) :
    LateSearch lines (n + 1) (insideProcedureAfter inside line) calculation where
  inside := h.insideAfter hat
  none_yet := by
    intro hcalculation k other hk hother
    rcases Nat.lt_succ_iff_lt_or_eq.mp hk with hlt | rfl
    · exact h.none_yet hcalculation k other hlt hother
    · obtain rfl : line = other := Option.some.inj (hat.symm.trans hother.1)
      exact hnone hcalculation hother
  first := by
    intro number hnumber
    obtain ⟨i, c, hi, hc, hcnumber, hclear⟩ := h.first number hnumber
    refine ⟨i, c, Nat.lt_succ_of_lt hi, hc, hcnumber, ?_⟩
    intro k other hik hk hother
    rcases Nat.lt_succ_iff_lt_or_eq.mp hk with hlt | rfl
    · exact hclear k other hik hlt hother
    · obtain rfl : line = other := Option.some.inj (hat.symm.trans hother.1)
      exact hsome (by simp [hnumber]) hother

/-- The first main calculation is remembered. -/
theorem remember (h : LateSearch lines n inside none) (hmain : MainAt lines n line)
    (hspec : line.spec = .calculation) :
    LateSearch lines (n + 1) (insideProcedureAfter inside line) (some line.number) where
  inside := h.insideAfter hmain.1
  none_yet := by simp
  first := by
    intro number hnumber
    have hfirst : FirstMainFrom lines 0 .calculation n line :=
      ⟨Nat.zero_le n, hmain, hspec, fun k other _ hk => h.none_yet rfl k other hk⟩
    exact ⟨n, line, Nat.lt_succ_self n, hfirst, Option.some.inj hnumber, by omega⟩

/-- The first main definition behind the calculation is a late one. -/
theorem found {number : Nat} (h : LateSearch lines n inside (some number))
    (hmain : MainAt lines n line) (hspec : line.spec = .definition) :
    ∃ i c, LateDefinitionAt lines i n c line ∧ c.number = number := by
  obtain ⟨i, c, hi, hc, hnumber, hclear⟩ := h.first number rfl
  exact ⟨i, c, ⟨hc, hi, hmain, hspec, fun k other hik hk => hclear k other hik hk⟩, hnumber⟩

/-- At the end of the lines there is no late definition. -/
theorem no_late (h : LateSearch lines n inside calculation) (hend : lines.length ≤ n) {i j : Nat}
    {c d : Line} : ¬ LateDefinitionAt lines i j c d := by
  intro hlate
  have hjn : j < n :=
    Nat.lt_of_lt_of_le (List.getElem?_eq_some_iff.mp hlate.definition.main.1).1 hend
  have hij : i < j := hlate.definition.from_start
  cases calculation with
  | none =>
    -- no calculation has been seen, but the late definition has one in front
    exact h.none_yet rfl i c (Nat.lt_trans hij hjn) hlate.calculation.main hlate.calculation.spec_eq
  | some number =>
    -- both calculations are the first one
    obtain ⟨i', c', -, hc', -, hclear⟩ := h.first number rfl
    obtain ⟨rfl, -⟩ := hc'.unique hlate.calculation
    exact hclear j d hij hjn hlate.definition.main hlate.definition.spec_eq

/-- A definition or a calculation of the rest is a main line when no procedure is open after it. -/
theorem mainAt_iff (h : LateSearch lines n inside calculation) (hat : lines[n]? = some line)
    (hcode : line.isCode) (hspec : line.spec = .definition ∨ line.spec = .calculation) :
    MainAt lines n line ↔ insideProcedureAfter inside line = false := by
  unfold MainAt
  rw [← h.insideAfter hat]
  simp [hat, hcode, hspec]

/-- **The search over the rest of the lines finds the late definition.** -/
theorem lateDefinitionFrom?_eq_some_iff {rest : List Line} (issue : Issue) :
    ∀ {n : Nat} {inside : Bool} {calculation : Option Nat}, LateSearch lines n inside calculation →
      lines.drop n = rest →
      (lateDefinitionFrom? inside calculation rest = some issue ↔
        ∃ i j c d, LateDefinitionAt lines i j c d ∧ issue = lateDefinitionIssue d c.number) := by
  -- induction on the lines still to come, the invariant follows the position
  induction rest with
  | nil =>
    intro n inside calculation h hrest
    have hend : lines.length ≤ n := List.drop_eq_nil_iff.mp hrest
    simp only [lateDefinitionFrom?, reduceCtorEq, false_iff]
    rintro ⟨i, j, c, d, hlate, -⟩
    exact h.no_late hend hlate
  | cons line rest ih =>
    intro n inside calculation h hrest
    have hat : lines[n]? = some line := by rw [← List.head?_drop, hrest, List.head?_cons]
    have htail : lines.drop (n + 1) = rest := by rw [← List.tail_drop, hrest, List.tail_cons]
    have hmain := h.mainAt_iff hat
    unfold lateDefinitionFrom?
    cases hcode : line.isCode with
    | false =>
      -- a line that is no code is passed over
      have hnot : ¬ MainAt lines n line := by simp [MainAt, hcode]
      have hpass := h.pass hat (fun _ hmain => absurd hmain hnot) (fun _ hmain => absurd hmain hnot)
      rw [insideProcedureAfter_of_not_code _ hcode] at hpass
      exact ih hpass htail
    | true =>
      cases hinside : insideProcedureAfter inside line with
      | true =>
        -- in a procedure definitions and calculations are local
        have hlocal : MainAt lines n line →
            ¬ (line.spec = .definition ∨ line.spec = .calculation) := by
          intro hline hspec
          rw [hmain hcode hspec, hinside] at hline
          cases hline
        have hpass := h.pass hat (fun _ hline hspec => hlocal hline (Or.inr hspec))
          (fun _ hline hspec => hlocal hline (Or.inl hspec))
        rw [hinside] at hpass
        simpa [hinside] using ih hpass htail
      | false =>
        simp only [Bool.not_true, Bool.false_eq_true, if_false]
        split
        · -- the first calculation
          next hspec =>
          have hremember := h.remember ((hmain hcode (Or.inr hspec)).mpr hinside) hspec
          rw [hinside] at hremember
          exact ih hremember htail
        · -- a definition behind it: the search ends here
          next number hspec =>
          obtain ⟨i, c, hlate, hnumber⟩ := h.found ((hmain hcode (Or.inl hspec)).mpr hinside) hspec
          constructor
          · intro hissue
            exact ⟨i, n, c, line, hlate, by rw [hnumber, Option.some.inj hissue]⟩
          · rintro ⟨i', j', c', d', hlate', rfl⟩
            obtain ⟨rfl, rfl⟩ := hlate.unique hlate'
            rw [hnumber]
        · -- any other main line
          next hfirst hlate =>
          have hpass := h.pass hat (fun hnone _ hspec => hfirst hspec hnone)
            (fun hsome _ hspec => by
              obtain ⟨number, hnumber⟩ := Option.ne_none_iff_exists'.mp hsome
              exact hlate number hspec hnumber)
          rw [hinside] at hpass
          exact ih hpass htail

end LateSearch

/-- **The finding is on the first main definition behind the first main calculation.** -/
theorem lateDefinition?_eq_some_iff (lines : List Line) (issue : Issue) :
    lateDefinition? lines = some issue ↔
      ∃ i j c d, LateDefinitionAt lines i j c d ∧ issue = lateDefinitionIssue d c.number :=
  (LateSearch.start lines).lateDefinitionFrom?_eq_some_iff issue List.drop_zero

/-- **A late definition comes with a finding on the order.**  Of the findings under `D_AFTER_C`
there is one at most.  It is on the first main definition behind the first main calculation.  Behind
the calculation, and not behind the definition, the run of the check on the order has a finding on
some line. -/
theorem lateDefinition_within_disorder (level : Level) (lines : List Line) :
    let late := (mistakePass level lines).filter (·.rule == "D_AFTER_C")
    late.length ≤ 1 ∧
      (∀ issue, issue ∈ late ↔
        ∃ i j c d, LateDefinitionAt lines i j c d ∧ issue = lateDefinitionIssue d c.number) ∧
      ∀ issue ∈ late, ∃ i j c d, LateDefinitionAt lines i j c d ∧ issue.line = d.number ∧
        ∃ k line state found, i < k ∧ k ≤ j ∧ lines[k]? = some line ∧
          (OrderState.steps {} lines)[k]? = some (state, some found) ∧
          found ∈ checkOrder lines ∧ found.rule = "SPEC_ORDER" ∧ found.line = line.number := by
  intro late
  have hlate : late = (lateDefinition? lines).toList :=
    filter_mistakePass_lateDefinition level lines
  have hmem : ∀ issue, issue ∈ late ↔
      ∃ i j c d, LateDefinitionAt lines i j c d ∧ issue = lateDefinitionIssue d c.number := by
    intro issue
    rw [hlate, Option.mem_toList, lateDefinition?_eq_some_iff]
  refine ⟨?_, hmem, ?_⟩
  · rw [hlate]
    cases lateDefinition? lines <;> simp
  · intro issue hissue
    obtain ⟨i, j, c, d, hat, rfl⟩ := (hmem issue).mp hissue
    -- definitions belong in front of calculations, so the order descends between the two
    have hplace : d.spec.place < c.spec.place := by
      rw [hat.definition.spec_eq, hat.calculation.spec_eq]
      decide
    obtain ⟨k, line, previous, hik, hkj, hline, hprevious, hdescent⟩ :=
      exists_descent hat.calculation.main hat.definition.main hat.definition.from_start hplace
    have hstep := OrderState.getElem?_steps_start hline.1
    have hfound := ((OrderState.tracks_at hline.1).issue_iff hline.1 _).mpr
      ⟨hline, previous, hprevious, hdescent, rfl⟩
    refine ⟨i, j, c, d, hat, rfl, k, line, ((OrderState.before lines k).step line).1,
      orderIssue line previous.spec, hik, hkj, hline.1, ?_, ?_, rfl, rfl⟩
    · rw [hstep, ← hfound]
    · exact List.mem_filterMap.mpr ⟨_, List.mem_of_getElem? hstep, hfound⟩

end RpgLint
