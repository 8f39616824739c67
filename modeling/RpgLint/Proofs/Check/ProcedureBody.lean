import RpgLint.Proofs.Check.LateDefinition

/-!
# Procedure bodies

The definitions and calculations of a procedure are its own.  The check on the order of
specifications and the search for a late definition each pass over them: neither keeps anything of
what stands between the line that opens a procedure and the one that ends it, so that leaving the
body out changes no finding on the lines around it.

## Main definitions

* `BodyLine` — the lines that may stand in a procedure.
* `OrderState.after` — the state that a run ends in.

## Main results

* `OrderState.steps_append`, `OrderState.steps_body` — a run in parts, and its part over a body.
* `checkOrder_skip`, `lateDefinition?_skip` — either check with and without a body.
* `procedure_body_isolated` — the findings with and without a body.
-/

namespace RpgLint

/-- A line of a procedure body: when it is code, a definition or a calculation. -/
def BodyLine (line : Line) : Prop :=
  line.isCode → line.spec = .definition ∨ line.spec = .calculation

instance (line : Line) : Decidable (BodyLine line) :=
  inferInstanceAs
    (Decidable (line.isCode = true → line.spec = .definition ∨ line.spec = .calculation))

/-- Only lines of type `P` are boundaries. -/
theorem insideProcedureAfter_of_spec_ne (inside : Bool) {line : Line} (h : line.spec ≠ .procedure) :
    insideProcedureAfter inside line = inside := by
  unfold insideProcedureAfter Line.boundary?
  simp [h]

/-- A line of a body leaves the procedure open. -/
theorem BodyLine.insideAfter {line : Line} (h : BodyLine line) (inside : Bool) :
    insideProcedureAfter inside line = inside := by
  cases hcode : line.isCode with
  | false => exact insideProcedureAfter_of_not_code inside hcode
  | true =>
    apply insideProcedureAfter_of_spec_ne
    rcases h hcode with hspec | hspec <;> simp [hspec]

/-- A line that opens a procedure does so whether one is open before it or not. -/
theorem Line.Opens.insideAfter {line : Line} (h : line.Opens) (inside : Bool) :
    insideProcedureAfter inside line = true :=
  (insideProcedureAfter_iff inside line).mpr (Or.inl h)

/-- Behind a line that ends a procedure none is open. -/
theorem Line.Closes.insideAfter {line : Line} (h : line.Closes) (inside : Bool) :
    insideProcedureAfter inside line = false := by
  unfold insideProcedureAfter
  rw [line.boundary?_eq_closes_iff.mpr h]

/-! ### The order of specifications -/

namespace OrderState

/-- The state that a run over the lines ends in. -/
def after (state : OrderState) (lines : List Line) : OrderState :=
  lines.foldl (fun state line => (state.step line).1) state

/-- A run in two parts: the second goes on from the state that the first ends in. -/
theorem steps_append (front back : List Line) : ∀ state : OrderState,
    state.steps (front ++ back) = state.steps front ++ (state.after front).steps back := by
  induction front with
  | nil =>
    intro state
    rfl
  | cons line front ih =>
    intro state
    exact congrArg (state.step line :: ·) (ih (state.step line).1)

/-- In an open procedure a line of the body changes nothing. -/
theorem step_body {state : OrderState} (hinside : state.inProcedure = true) {line : Line}
    (h : BodyLine line) : state.step line = (state, none) := by
  unfold step
  cases hcode : line.isCode with
  | false => rfl
  | true =>
    -- definitions and calculations of an open procedure are its own
    have hlocal : line.isLocal true := by
      rcases h hcode with hspec | hspec <;> simp [Line.isLocal, hspec]
    simp [h.insideAfter, hinside, hlocal]
    rw [← hinside]

/-- **A run over a body stands still and reports nothing.** -/
theorem steps_body {state : OrderState} (hinside : state.inProcedure = true) {body : List Line}
    (hbody : ∀ line ∈ body, BodyLine line) :
    state.steps body = body.map (fun _ => (state, none)) ∧ state.after body = state := by
  induction body with
  | nil => exact ⟨rfl, rfl⟩
  | cons line body ih =>
    obtain ⟨hline, hrest⟩ := List.forall_mem_cons.mp hbody
    have hstep := step_body hinside hline
    -- the state behind the first line is the one in front of it
    obtain ⟨hsteps, hafter⟩ := ih hrest
    constructor
    · rw [steps, hstep, hsteps, List.map_cons]
    · rw [after, List.foldl_cons, hstep]
      exact hafter

/-- Behind a line that opens a procedure one is open. -/
theorem after_opens {opener : Line} (h : opener.Opens) (state : OrderState) (front : List Line) :
    (state.after (front ++ [opener])).inProcedure = true := by
  rw [after, List.foldl_append, List.foldl_cons, List.foldl_nil, step_inProcedure]
  exact h.insideAfter _

/-- A run over the body of a procedure, between what comes before and what comes behind. -/
theorem steps_procedure {opener : Line} (hopener : opener.Opens) {body : List Line}
    (hbody : ∀ line ∈ body, BodyLine line) (state : OrderState) (front rest : List Line) :
    let inBody := state.after (front ++ [opener])
    state.steps (front ++ [opener] ++ (body ++ rest)) =
      state.steps (front ++ [opener]) ++ body.map (fun _ => (inBody, none)) ++
        inBody.steps rest := by
  intro inBody
  have hopen : inBody.inProcedure = true := after_opens hopener state front
  obtain ⟨hsteps, hafter⟩ := steps_body hopen hbody
  rw [steps_append _ (body ++ rest), steps_append body rest, hsteps, hafter, List.append_assoc]

end OrderState

/-- **The findings on the order are the same with and without a body.** -/
theorem checkOrder_skip {opener : Line} (hopener : opener.Opens) {body : List Line}
    (hbody : ∀ line ∈ body, BodyLine line) (front rest : List Line) :
    checkOrder (front ++ [opener] ++ (body ++ rest)) = checkOrder (front ++ [opener] ++ rest) := by
  unfold checkOrder
  rw [OrderState.steps_procedure hopener hbody, OrderState.steps_append (front ++ [opener]) rest]
  simp

/-- Every finding on the order is on one of the lines. -/
theorem line_mem_of_mem_checkOrder {lines : List Line} {issue : Issue}
    (h : issue ∈ checkOrder lines) :
    ∃ line ∈ lines, issue.line = line.number := by
  obtain ⟨entry, hentry, hissue⟩ := List.mem_filterMap.mp h
  obtain ⟨n, hn⟩ := List.mem_iff_getElem?.mp hentry
  -- there is one entry for each line, so the entry belongs to one
  have hlt : n < lines.length := by
    rw [← OrderState.length_steps lines {}]
    exact (List.getElem?_eq_some_iff.mp hn).1
  have hat : lines[n]? = some lines[n] := List.getElem?_eq_getElem hlt
  rw [OrderState.getElem?_steps_start hat, Option.some.injEq] at hn
  obtain ⟨-, previous, -, -, rfl⟩ :=
    ((OrderState.tracks_at hat).issue_iff hat issue).mp (hn ▸ hissue)
  exact ⟨lines[n], List.getElem_mem hlt, rfl⟩

/-! ### The late definition -/

/-- In an open procedure the search passes over a body. -/
theorem lateDefinitionFrom?_body {body : List Line} (hbody : ∀ line ∈ body, BodyLine line)
    (rest : List Line) (calculation : Option Nat) :
    lateDefinitionFrom? true calculation (body ++ rest) =
      lateDefinitionFrom? true calculation rest := by
  induction body with
  | nil => rfl
  | cons line body ih =>
    obtain ⟨hline, hrest⟩ := List.forall_mem_cons.mp hbody
    rw [List.cons_append, lateDefinitionFrom?]
    cases hcode : line.isCode with
    | false => exact ih hrest
    | true => simpa [hline.insideAfter] using ih hrest

/-- **The search finds the same with and without a body**, wherever it comes from. -/
theorem lateDefinitionFrom?_skip {opener : Line} (hopener : opener.Opens) {body : List Line}
    (hbody : ∀ line ∈ body, BodyLine line) (front rest : List Line) :
    ∀ (inside : Bool) (calculation : Option Nat),
      lateDefinitionFrom? inside calculation (front ++ opener :: (body ++ rest)) =
        lateDefinitionFrom? inside calculation (front ++ opener :: rest) := by
  induction front with
  | nil =>
    intro inside calculation
    have hopen : insideProcedureAfter inside opener = true := hopener.insideAfter inside
    have hcode : opener.isCode = true := hopener.code
    -- the opening line itself finds nothing, and behind it the body is passed over
    simpa [lateDefinitionFrom?, hcode, hopen] using lateDefinitionFrom?_body hbody rest calculation
  | cons line front ih =>
    intro inside calculation
    simp only [List.cons_append, lateDefinitionFrom?, ih]

/-- The finding on a late definition is the same with and without a body. -/
theorem lateDefinition?_skip {opener : Line} (hopener : opener.Opens) {body : List Line}
    (hbody : ∀ line ∈ body, BodyLine line) (front rest : List Line) :
    lateDefinition? (front ++ [opener] ++ (body ++ rest)) =
      lateDefinition? (front ++ [opener] ++ rest) := by
  rw [List.append_assoc, List.append_assoc]
  exact lateDefinitionFrom?_skip hopener hbody front rest false none

/-- The finding on a late definition is on one of the lines. -/
theorem line_mem_of_lateDefinition? {lines : List Line} {issue : Issue}
    (h : lateDefinition? lines = some issue) : ∃ line ∈ lines, issue.line = line.number := by
  obtain ⟨i, j, c, d, hlate, rfl⟩ := (lateDefinition?_eq_some_iff lines issue).mp h
  exact ⟨d, List.mem_of_getElem? hlate.definition.main.1, rfl⟩

/-! ### Both checks -/

/-- Lines of a body have other numbers than the lines around it, when all numbers are different. -/
theorem number_ne_of_mem_body {front body rest : List Line}
    (hnodup : ((front ++ (body ++ rest)).map Line.number).Nodup) {line other : Line}
    (hline : line ∈ body) (hother : other ∈ front ++ rest) : other.number ≠ line.number := by
  simp only [List.map_append, List.nodup_append] at hnodup
  obtain ⟨-, ⟨-, -, hrest⟩, hfront⟩ := hnodup
  have hnumber : line.number ∈ body.map Line.number := List.mem_map_of_mem hline
  rcases List.mem_append.mp hother with hother | hother
  · -- a line in front of the body, or one behind it
    exact hfront _ (List.mem_map_of_mem hother) _ (List.mem_append_left _ hnumber)
  · exact (hrest _ hnumber _ (List.mem_map_of_mem hother)).symm

/-- **Procedure bodies are isolated.**  With the body of a procedure and without it, the findings on
the order of specifications are the same, and so is the finding on a late definition.  In the run
over the lines nothing is reported on the body, and all entries around it are those of the run
without it; behind the line that ends the procedure none is open.  So when the lines have different
numbers, no finding has the number of a line of the body. -/
theorem procedure_body_isolated (level : Level) (front rest : List Line) {opener closer : Line}
    {body : List Line} (hopener : opener.Opens) (hcloser : closer.Closes)
    (hbody : ∀ line ∈ body, BodyLine line) :
    let whole := front ++ [opener] ++ body ++ [closer] ++ rest
    let short := front ++ [opener, closer] ++ rest
    let late := fun lines => (mistakePass level lines).filter (·.rule == "D_AFTER_C")
    checkOrder whole = checkOrder short ∧ late whole = late short ∧
      (∃ before inBody atCloser behind,
        OrderState.steps {} whole =
            before ++ body.map (fun _ => (inBody, none)) ++ atCloser :: behind ∧
          OrderState.steps {} short = before ++ atCloser :: behind ∧
          before.length = front.length + 1 ∧ behind.length = rest.length ∧
          inBody.inProcedure = true ∧ atCloser.1.inProcedure = false) ∧
      ((whole.map Line.number).Nodup →
        ∀ issue ∈ checkOrder whole ++ late whole, ∀ line ∈ body, issue.line ≠ line.number) := by
  intro whole short late
  have hwhole : whole = front ++ [opener] ++ (body ++ closer :: rest) := by simp [whole]
  have hshort : short = front ++ [opener] ++ closer :: rest := by simp [short]
  -- both runs come to the body, or to the closing line, in the same state
  have hwholeSteps := OrderState.steps_procedure hopener hbody {} front (closer :: rest)
  have hshortSteps := OrderState.steps_append (front ++ [opener]) (closer :: rest) {}
  rw [← hwhole] at hwholeSteps
  rw [← hshort] at hshortSteps
  -- the findings are read off the two runs
  have horder : checkOrder whole = checkOrder short := by
    rw [hwhole, hshort, checkOrder_skip hopener hbody]
  have hlate : late whole = late short := by
    simp only [late, filter_mistakePass_lateDefinition]
    rw [hwhole, hshort, lateDefinition?_skip hopener hbody]
  refine ⟨horder, hlate, ?_, ?_⟩
  · -- the entries before the body, at the closing line, and behind it
    refine ⟨_, _, _, _, hwholeSteps, hshortSteps, ?_, OrderState.length_steps rest _,
      OrderState.after_opens hopener {} front, ?_⟩
    · rw [OrderState.length_steps, List.length_append, List.length_singleton]
    · rw [OrderState.step_inProcedure]
      exact hcloser.insideAfter _
  · -- a finding is still there without the body, so it is on a line that stays
    intro hnodup issue hissue line hline
    rw [horder, hlate] at hissue
    obtain ⟨other, hother, hnumber⟩ : ∃ other ∈ short, issue.line = other.number := by
      rcases List.mem_append.mp hissue with hreported | hreported
      · exact line_mem_of_mem_checkOrder hreported
      · simp only [late, filter_mistakePass_lateDefinition, Option.mem_toList] at hreported
        exact line_mem_of_lateDefinition? hreported
    rw [hwhole] at hnodup
    rw [hshort] at hother
    rw [hnumber]
    exact number_ne_of_mem_body hnodup hline hother

/-- A calculation, a procedure with a definition, a remark and a calculation of its own, and a late
definition: the procedure and the definition are reported, with the body and without it. -/
theorem procedure_body_isolated_total :
    let front := [Line.classify 1 "     C                   EVAL      a = 1"]
    let opener := Line.classify 2 "     PTotal            B"
    let body :=
      [Line.classify 3 "     D sum             S             10I 0",
        Line.classify 4 "      * remark",
        Line.classify 5 "     C                   EVAL      sum = 1"]
    let closer := Line.classify 6 "     PTotal            E"
    let rest := [Line.classify 7 "     D late            S             10I 0"]
    let whole := front ++ [opener] ++ body ++ [closer] ++ rest
    let short := front ++ [opener, closer] ++ rest
    let late := fun lines => (mistakePass .strict lines).filter (·.rule == "D_AFTER_C")
    opener.Opens ∧ closer.Closes ∧ (∀ line ∈ body, BodyLine line) ∧
      (checkOrder whole).map Issue.line = [2, 7] ∧ checkOrder whole = checkOrder short ∧
      (late whole).map Issue.line = [7] ∧ late whole = late short := by
  intro front opener body closer rest whole short late
  have hopener : opener.Opens := opener.boundary?_eq_opens_iff.mp (by decide)
  have hcloser : closer.Closes := closer.boundary?_eq_closes_iff.mp (by decide)
  have hbody : ∀ line ∈ body, BodyLine line := by decide
  obtain ⟨horder, hlate, -⟩ := procedure_body_isolated .strict front rest hopener hcloser hbody
  refine ⟨hopener, hcloser, hbody, ?_, horder, ?_, hlate⟩
  · rw [horder]
    decide
  · have hshort : late short = (lateDefinition? short).toList :=
      filter_mistakePass_lateDefinition .strict short
    rw [show late whole = late short from hlate, hshort]
    decide

end RpgLint
