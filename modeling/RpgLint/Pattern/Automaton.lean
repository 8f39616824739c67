import RpgLint.Pattern.Basic

/-!
# Automata

Only one question is asked about a pattern: does some part of a text have the described form?  A
pattern is laid out as steps for that, each with the number of the step behind it, and a text is
read once with the numbers of the steps that wait for its next character.

## Main definitions

* `Step`, `Automaton` — the steps of a pattern, and where they begin.
* `Pattern.automaton` — the pattern laid out as steps.
* `Automaton.explore` — the steps that can be reached without reading on.
* `Automaton.advance` — where they go on after a character.
* `Automaton.occursIn` — some part of the text has the described form.
-/

namespace RpgLint

/-- What is done at a place of a text before going on with another step. -/
inductive Step
  /-- Everything has been found. -/
  | stop
  /-- A character of the set is read. -/
  | read (set : CharSet) (next : Nat)
  /-- The condition holds at the place. -/
  | check (condition : Assertion) (next : Nat)
  /-- Either way is gone. -/
  | fork (first second : Nat)

/-- A pattern as steps. -/
structure Automaton where
  /-- The steps. -/
  steps : Array Step
  /-- The number of the first step. -/
  start : Nat

namespace Automaton

/-- The automaton with one more step, which is the first one now. -/
def before (step : Nat → Step) (automaton : Automaton) : Automaton :=
  ⟨automaton.steps.push (step automaton.start), automaton.steps.size⟩

end Automaton

namespace Pattern

/-- The steps of the pattern in front of an automaton.  A repetition without a bound is a fork that
the steps of its body lead back to. -/
def layOut : Pattern → Automaton → Automaton
  | empty, rest => rest
  | char set, rest => rest.before (.read set)
  | assertion condition, rest => rest.before (.check condition)
  | seq first second, rest => first.layOut (second.layOut rest)
  | either first second, rest =>
    let second := second.layOut rest
    let first := first.layOut ⟨second.steps, rest.start⟩
    first.before fun start => .fork start second.start
  | group _ body, rest => body.layOut rest
  | repeated body least none, rest =>
    let entry := rest.steps.size
    let round := body.layOut ⟨rest.steps.push .stop, entry⟩
    let loop : Automaton := ⟨round.steps.setIfInBounds entry (.fork round.start rest.start), entry⟩
    -- the last required round runs into the fork as well
    if least = 0 then loop else Nat.repeat body.layOut (least - 1) ⟨loop.steps, round.start⟩
  | repeated body least (some most), rest =>
    let optional := Nat.repeat
      (fun later => (body.layOut later).before fun start => .fork start rest.start)
        (most - least) rest
    Nat.repeat body.layOut least optional

/-- The pattern as steps. -/
def automaton (pattern : Pattern) : Automaton := pattern.layOut ⟨#[.stop], 0⟩

end Pattern

namespace Automaton

/-- What has been reached at a place. -/
structure Reached where
  /-- For each step the number of the last place where it was reached. -/
  marks : Array Nat
  /-- The steps that wait for a character: what they read, and where they go on. -/
  waiting : List (CharSet × Nat)
  /-- The stop has been reached. -/
  stopped : Bool

/-- Goes all ways from the steps `todo` that read no character, at the place with the number
`stamp`.  A step that has its mark is not taken again, so that each step is looked into once and
leads to two others at most: twice as many rounds as there are steps are fuel enough. -/
def explore (steps : Array Step) (place : Place) (stamp : Nat) :
    (fuel : Nat) → (todo : List Nat) → (marks : Array Nat) → List (CharSet × Nat) → Reached
  | 0, _, marks, waiting => ⟨marks, waiting, false⟩
  | _, [], marks, waiting => ⟨marks, waiting, false⟩
  | fuel + 1, number :: todo, marks, waiting =>
    if marks[number]? = some stamp then explore steps place stamp fuel todo marks waiting
    else
      let marks := marks.setIfInBounds number stamp
      match steps[number]? with
      | none => explore steps place stamp fuel todo marks waiting
      | some .stop => ⟨marks, waiting, true⟩
      | some (.read set next) => explore steps place stamp fuel todo marks ((set, next) :: waiting)
      | some (.check condition next) =>
        if condition.holds place then explore steps place stamp fuel (next :: todo) marks waiting
        else explore steps place stamp fuel todo marks waiting
      | some (.fork first second) =>
        explore steps place stamp fuel (first :: second :: todo) marks waiting

/-- What can be reached at a place: a part of the text may begin there, or may have begun with one
of the steps `active`. -/
def reach (automaton : Automaton) (stamp : Nat) (place : Place) (marks : Array Nat)
    (active : List Nat) : Reached :=
  explore automaton.steps place stamp (2 * automaton.steps.size + active.length + 2)
    (automaton.start :: active) marks []

/-- Where the steps that wait go on after a character. -/
def advance (waiting : List (CharSet × Nat)) (c : Char) : List Nat :=
  waiting.filterMap fun (set, next) => if set.holds c.toNat then some next else none

/-- Some part of the text that begins later, or begins now or has begun with one of the steps
`active`, has the described form.  `before` is the character in front of the text, and `stamp` the
number of the place. -/
def occursFrom (automaton : Automaton) (stamp : Nat) (before : Option Char) (marks : Array Nat)
    (active : List Nat) : List Char → Bool
  | [] => (automaton.reach stamp ⟨before, none⟩ marks active).stopped
  | c :: text =>
    let reached := automaton.reach stamp ⟨before, some c⟩ marks active
    reached.stopped ||
      automaton.occursFrom (stamp + 1) (some c) reached.marks (advance reached.waiting c) text

/-- Some part of the text has the described form. -/
def occursIn (automaton : Automaton) (text : String) : Bool :=
  automaton.occursFrom 1 none (Array.replicate automaton.steps.size 0) [] text.toList

end Automaton

end RpgLint
