import RpgLint.Check.Issue
import RpgLint.Line.Directive

/-!
# Order of specifications

In the main section the types of specifications follow one another in the order H, F, D, P, I, C, O.
A line whose type comes before that of the preceding main-section line is reported, and becomes the
one that the next line is compared with.

A procedure begins with a `P` line that has a `B` in column 24 and ends with one that has an `E`
there.  The definitions and calculations between the two belong to the procedure and not to the main
section.  The order of specifications and the place of definitions both depend on this, and share
one step.

## Main definitions

* `Boundary`, `Line.boundary?` — a line that begins or ends a procedure.
* `insideProcedureAfter` — whether a procedure is open after a line.
* `Line.isLocal` — a definition or calculation inside of a procedure.
* `OrderState`, `OrderState.step` — what is known after a line, and the finding on it.
* `checkOrder` — the findings `SPEC_ORDER` of a source.
* `lateDefinition?` — the finding `D_AFTER_C`: the first main-section definition after a
  calculation.
-/

namespace RpgLint

/-! ### Procedures -/

/-- What a `P` line does to the procedure it belongs to. -/
inductive Boundary
  | opens
  | closes
  deriving DecidableEq, Repr

/-- The boundary that a line marks.  A line with a long name that goes on in the next line marks
none, whatever character of the name stands in column 24. -/
def Line.boundary? (line : Line) : Option Boundary :=
  if line.isCode && line.spec == .procedure && !continuesName line.raw && 24 ≤ line.length then
    match charAt? line.raw Field.beginEnd.start with
    | some 'B' | some 'b' => some .opens
    | some 'E' | some 'e' => some .closes
    | _ => none
  else none

/-- Whether a procedure is open after a line, before which one was open (`inside`) or not. -/
def insideProcedureAfter (inside : Bool) (line : Line) : Bool :=
  match line.boundary? with
  | some .opens => true
  | some .closes => false
  | none => inside

/-- A line that belongs to the open procedure: a definition or a calculation. -/
def Line.isLocal (inside : Bool) (line : Line) : Bool :=
  inside && (line.spec == .definition || line.spec == .calculation)

/-! ### The main section -/

/-- What is known of the lines so far. -/
structure OrderState where
  /-- Place of the last main-section specification in the mandatory order. -/
  lastIndex? : Option Nat := none
  /-- Type of the last main-section specification. -/
  lastType? : Option SpecType := none
  /-- A procedure is open. -/
  inProcedure : Bool := false
  deriving DecidableEq, Repr

/-- The finding on a specification that comes after one it has to precede. -/
def orderIssue (line : Line) (previous : SpecType) : Issue :=
  let spec := line.spec.code
  let before := previous.code
  { severity := .error
    category := .structural
    line := line.number
    rule := "SPEC_ORDER"
    message := s!"{spec} specification appears after {before} specification"
    column := some 6
    description := some "Specifications must appear in the order H, F, D, P, I, C, O."
    suggestion := some s!"Move this {spec} specification before the {before} specifications"
    snippet := some line.raw }

namespace OrderState

/-- The finding on a line whose place in the order comes before the last one. -/
def descent? (state : OrderState) (line : Line) (index : Nat) : Option Issue :=
  match state.lastIndex?, state.lastType? with
  | some last, some previous => if index < last then some (orderIssue line previous) else none
  | _, _ => none

/-- The state after a line and the finding on it.  Lines that are no code, and definitions and
calculations of an open procedure, change nothing. -/
def step (state : OrderState) (line : Line) : OrderState × Option Issue :=
  if !line.isCode then (state, none)
  else
    let inside := insideProcedureAfter state.inProcedure line
    -- local lines leave the last main-section specification as it is
    if line.isLocal inside then ({ state with inProcedure := inside }, none)
    else match line.spec.orderIndex? with
      | none => ({ state with inProcedure := inside }, none)
      | some index =>
        ({ lastIndex? := some index, lastType? := some line.spec, inProcedure := inside },
          state.descent? line index)

/-- The state after each line, with the finding on the line. -/
def steps (state : OrderState) : List Line → List (OrderState × Option Issue)
  | [] => []
  | line :: lines =>
    let result := state.step line
    result :: steps result.1 lines

end OrderState

/-- The findings on specifications out of order. -/
def checkOrder (lines : List Line) : List Issue :=
  (OrderState.steps {} lines).filterMap Prod.snd

/-- The finding on a definition that comes after a calculation on the given line. -/
def lateDefinitionIssue (line : Line) (calculation : Nat) : Issue :=
  { severity := .error
    category := .structural
    line := line.number
    rule := "D_AFTER_C"
    message := "Definition specification appears after calculation specifications"
    description := some ("Main-section D specifications must come before C specifications; " ++
      "subprocedure definitions are exempt.")
    suggestion := some s!"Move the D specification before line {calculation}"
    snippet := some line.raw }

/-- The first main-section definition after a main-section calculation, when a procedure is open
before the lines (`inside`) or not, and `calculation` is the first calculation before them. -/
def lateDefinitionFrom? (inside : Bool) (calculation : Option Nat) : List Line → Option Issue
  | [] => none
  | line :: lines =>
    if !line.isCode then lateDefinitionFrom? inside calculation lines
    else
      let inside := insideProcedureAfter inside line
      if inside then lateDefinitionFrom? inside calculation lines
      else match line.spec, calculation with
        | .calculation, none => lateDefinitionFrom? inside (some line.number) lines
        | .definition, some first => some (lateDefinitionIssue line first)
        | _, _ => lateDefinitionFrom? inside calculation lines

/-- The first main-section definition after a main-section calculation. -/
def lateDefinition? (lines : List Line) : Option Issue := lateDefinitionFrom? false none lines

end RpgLint
