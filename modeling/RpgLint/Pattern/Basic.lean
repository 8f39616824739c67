import RpgLint.Pattern.CharSet

/-!
# Patterns

A pattern describes texts by choice, sequence and repetition, and may look at the characters around
a place.

A pattern can be put in many ways: `a(?:bc)` and `abc`, or `a|b` and `[ab]`, describe the same
texts.  Patterns are put together by the functions of this module, which choose one way of several.
It matters for the room that a pattern takes up.

## Main definitions

* `Place`, `Assertion` — the characters before and after a place, and the conditions on them.
* `Pattern` — the patterns.
* `Pattern.ofSet`, `andThen`, `anyOf`, `times` — how patterns are put together.
-/

namespace RpgLint

/-- A place in a text: the characters before and after it, if there are any. -/
structure Place where
  /-- The character before. -/
  before : Option Char
  /-- The character after. -/
  after : Option Char

/-- Where a place may lie among words. -/
inductive WordPlace
  /-- A word character stands on exactly one side. -/
  | boundary
  /-- Word characters stand on both sides or on none. -/
  | notBoundary
  /-- A word begins. -/
  | start
  /-- A word ends. -/
  | stop
  /-- No word character stands before. -/
  | startHalf
  /-- No word character stands after. -/
  | stopHalf
  deriving DecidableEq, Repr

/-- A condition on a place. -/
inductive Assertion
  /-- Nothing stands before. -/
  | textStart
  /-- Nothing stands after. -/
  | textEnd
  /-- Nothing or a line feed stands before. -/
  | lineStart
  /-- Nothing or a line feed stands after. -/
  | lineEnd
  /-- A line starts, where a carriage return ends lines too. -/
  | crlfLineStart
  /-- A line ends, where a carriage return ends lines too. -/
  | crlfLineEnd
  /-- The place lies so among words, which are made of Unicode or of ASCII word characters. -/
  | word (unicode : Bool) (place : WordPlace)
  deriving DecidableEq, Repr

/-- A place with or without word characters on its sides lies so among words. -/
def WordPlace.holds (before after : Bool) : WordPlace → Bool
  | boundary => before != after
  | notBoundary => before == after
  | start => !before && after
  | stop => before && !after
  | startHalf => !before
  | stopHalf => !after

/-- The assertion holds at the place. -/
def Assertion.holds (assertion : Assertion) (place : Place) : Bool :=
  match assertion with
  | textStart => place.before.isNone
  | textEnd => place.after.isNone
  | lineStart => place.before.isNone || place.before == some '\n'
  | lineEnd => place.after.isNone || place.after == some '\n'
  | crlfLineStart =>
    place.before.isNone || place.before == some '\n' ||
      (place.before == some '\r' && place.after != some '\n')
  | crlfLineEnd =>
    place.after.isNone || place.after == some '\r' ||
      (place.after == some '\n' && place.before != some '\r')
  | word unicode wordPlace =>
    let inWord := fun (c : Char) => (unicode || c.toNat < 0x80) && isWordCharacter c
    wordPlace.holds ((place.before.map inWord).getD false) ((place.after.map inWord).getD false)

/-- A description of texts. -/
inductive Pattern
  /-- The empty text. -/
  | empty
  /-- One character of the set. -/
  | char (set : CharSet)
  /-- The empty text, at a place with the condition. -/
  | assertion (condition : Assertion)
  /-- One text after another. -/
  | seq (first second : Pattern)
  /-- Either text. -/
  | either (first second : Pattern)
  /-- So many texts one after another: at least `least`, and at most `most` if there is a bound. -/
  | repeated (body : Pattern) (least : Nat) (most : Option Nat)
  /-- The text of a group with a number. -/
  | group (number : Nat) (body : Pattern)
  deriving DecidableEq, Repr

namespace Pattern

/-- The pattern describes the empty text only. -/
def isWidthless : Pattern → Bool
  | empty | assertion _ => true
  | char _ => false
  | seq first second | either first second => first.isWidthless && second.isWidthless
  | repeated body _ _ | group _ body => body.isWidthless

/-- The parts of a sequence. -/
def parts : Pattern → List Pattern
  | empty => []
  | seq first second => first :: second.parts
  | pattern => [pattern]

/-- The branches of a choice. -/
def branches : Pattern → List Pattern
  | either first second => first :: second.branches
  | pattern => [pattern]

/-- One part in front of a sequence. -/
def prepend (first second : Pattern) : Pattern :=
  if first = empty then second else if second = empty then first else seq first second

/-- The sequence of the parts. -/
def ofParts (parts : List Pattern) : Pattern := parts.foldr prepend empty

/-- One text after another.  Sequences within the sequence are taken apart. -/
def andThen (first second : Pattern) : Pattern := first.parts.foldr prepend second

/-- The texts of a list one after another. -/
def sequence (patterns : List Pattern) : Pattern := patterns.foldr andThen empty

/-- The set of the single characters that a pattern describes. -/
def set? : Pattern → Option CharSet
  | char set => some set
  | _ => none

/-- The choice between the branches.  Single characters are one set. -/
def ofBranches (branches : List Pattern) : Pattern :=
  match branches.mapM set? with
  | some sets => char (.unions sets)
  | none =>
    match branches.reverse with
    | [] => char .none
    | last :: earlier => earlier.foldl (fun rest branch => either branch rest) last

/-- The parts that two lists begin with. -/
def shared : List Pattern → List Pattern → List Pattern
  | a :: as, b :: bs => if a = b then a :: shared as bs else []
  | _, _ => []

/-- The parts that all branches begin with, where each branch is a sequence. -/
def sharedStart (branches : List Pattern) : List Pattern :=
  let sequences := branches.map parts
  if sequences.all (1 < ·.length) then
    match sequences with
    | [] => []
    | first :: others => others.foldl shared first
  else []

/-- Any of several texts.  Choices within the choice are taken apart, and what all branches begin
with is put in front of the choice. -/
def anyOf (patterns : List Pattern) : Pattern :=
  let branches := patterns.flatMap branches
  let start := if 1 < branches.length then sharedStart branches else []
  if start.isEmpty then ofBranches branches
  else
    let rests := branches.map fun branch => ofParts (branch.parts.drop start.length)
    ofParts (start ++ (ofBranches (rests.flatMap Pattern.branches)).parts)

/-- So many texts one after another.  Empty texts are repeated once at most. -/
def times (body : Pattern) (least : Nat) (most : Option Nat) : Pattern :=
  let (least, most) :=
    if body.isWidthless then (min least 1, some (min (most.getD 1) 1)) else (least, most)
  if most = some 0 then empty
  else if least = 1 && most = some 1 then body
  else repeated body least most

end Pattern

end RpgLint
