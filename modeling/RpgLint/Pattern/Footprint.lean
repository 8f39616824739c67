import RpgLint.Pattern.Basic
import RpgLint.Pattern.Encoding

/-!
# The room that a pattern takes up

A pattern is meant to be laid out for bytes, once to be read forward and once to be read backward,
and either layout has to fit into ten mebibytes.  A repetition with bounds is laid out as often as
its bound says, which is what fills the room.  Nothing is laid out to measure it: the room is a sum
over the parts of the pattern.

## Main definitions

* `Direction` — forward or backward.
* `CharSet.footprint`, `Pattern.footprint` — the room of a set and of a pattern.
* `Pattern.fits` — both layouts have room.
-/

namespace RpgLint

/-- The direction in which a layout reads a text. -/
inductive Direction
  | forward
  | backward
  deriving DecidableEq, Repr

namespace Footprint

/-- The room of one step. -/
def step : Nat := 32

/-- The room of one way to go on from a fork. -/
def way : Nat := 4

/-- The room of one range of bytes in a step that chooses among several. -/
def byteRange : Nat := 8

/-- The room of a layout. -/
def limit : Nat := 10485760

end Footprint

open Footprint

namespace Encoding

/-- How many ranges the second list has behind those that both begin with. -/
def fresh : List ByteRange → List ByteRange → Nat
  | a :: as, b :: bs => if a = b then fresh as bs else bs.length + 1
  | _, bs => bs.length

/-- How many steps read the given bytes, where those that begin alike share the steps for that. -/
def sharedSteps (previous : List ByteRange) : List (List ByteRange) → Nat
  | [] => 0
  | bytes :: others => fresh previous bytes + sharedSteps bytes others

/-- Splits bytes by the first range: each range with what follows it.  Equal ranges stand side by
side. -/
def split (bytes : List (List ByteRange)) : List (ByteRange × List (List ByteRange)) :=
  bytes.foldr (fun sequence groups =>
    match sequence, groups with
    | [], groups => groups
    | range :: later, (other, rests) :: groups =>
      if range = other then (range, later :: rests) :: groups
      else (range, [later]) :: (other, rests) :: groups
    | range :: later, [] => [(range, [later])]) []

/-- The room of a step that chooses among the first ranges of the bytes. -/
def choice (bytes : List (List ByteRange)) : Nat := step + byteRange * (split bytes).length

/-- The room of the steps behind the first, where bytes that go on alike share the steps for that.
There are `count` bytes left to read at the groups `inner`, and the bytes of `outer` with so many
behind the first come to them. -/
def tails (outer : List (List ByteRange)) :
    (count : Nat) → (inner : List (List (List ByteRange))) → Nat
  | 0, _ => 0
  | count + 1, inner =>
    let entering := (split (outer.filter fun bytes => bytes.length == count + 2)).map Prod.snd
    let groups := (entering ++ inner).eraseDups
    (groups.map choice).sum + tails outer count
      (groups.flatMap fun group => (split group).map Prod.snd)

end Encoding

/-- The room of one character of a set.  ASCII characters are one choice.  Other characters are read
byte by byte: backward with a fork for every piece of the set, where pieces that begin alike share
steps, and forward with one choice for each byte, where pieces that go on alike share steps too. -/
def CharSet.footprint (direction : Direction) (set : CharSet) : Nat :=
  match set.onlyMember? with
  | some c => step * c.utf8Size
  | .none =>
    if set.isAscii then 2 * step + byteRange * set.runs.length
    else
      let bytes := set.encodings
      match direction with
      | .backward => 2 * step + step * Encoding.sharedSteps [] bytes + way * bytes.length
      | .forward => step + Encoding.choice bytes + Encoding.tails bytes 3 []

namespace Pattern

/-- The least number of characters that a text of the given form has.  It is not known where some
part of the pattern describes no text at all. -/
def leastLength? : Pattern → Option Nat
  | empty | assertion _ => some 0
  | char set => if set.runs.isEmpty then none else some 1
  | seq first second => do return (← first.leastLength?) + (← second.leastLength?)
  | either first second => do return min (← first.leastLength?) (← second.leastLength?)
  | repeated body least _ => body.leastLength?.map (least * ·)
  | group _ body => body.leastLength?

/-- Every text of the given form has a character. -/
def hasWidth (pattern : Pattern) : Bool :=
  match pattern.leastLength? with
  | some length => decide (0 < length)
  | none => false

/-- The room of a repetition whose body has the room `round`.  A loop around what may be empty has
an end of its own. -/
def repeatedFootprint (body : Pattern) (round least : Nat) : (most : Option Nat) → Nat
  | none =>
    if 0 < least then least * round + step + 2 * way
    else if body.hasWidth then round + step + 2 * way
    else round + 3 * step + 4 * way
  | some most =>
    if least = most then least * round
    else if least = 0 && most = 1 then round + 2 * step + 2 * way
    else (if least = 0 then step else least * round) + step +
      (most - least) * (round + step + 2 * way)

/-- The room of a pattern.  `inChoice` says that the pattern is a later branch of a choice: the fork
and the end of the choice have been counted then, and only the way to the branch is added.  Reading
forward, both ends of a group are kept. -/
def footprint (direction : Direction) (inChoice : Bool) : Pattern → Nat
  | empty | assertion _ => (if inChoice then way else 0) + step
  | char set => (if inChoice then way else 0) + set.footprint direction
  | seq first second =>
    (if inChoice then way else 0) + first.footprint direction false +
      second.footprint direction false
  | either first second =>
    (if inChoice then way else 2 * step + way) + first.footprint direction false +
      second.footprint direction true
  | repeated body least most =>
    (if inChoice then way else 0) + body.repeatedFootprint
      (body.footprint direction false) least most
  | group _ body =>
    (if inChoice then way else 0) + (if direction = .forward then 2 * step else 0) +
      body.footprint direction false

/-- A text of the given form begins at the start of the whole text, or ends at its end if read
backward. -/
def isAnchored (direction : Direction) : Pattern → Bool
  | assertion .textStart => direction = .forward
  | assertion .textEnd => direction = .backward
  | seq first second =>
    match direction with
    | .forward => first.isAnchored direction || (first.isWidthless && second.isAnchored direction)
    | .backward => second.isAnchored direction || (second.isWidthless && first.isAnchored direction)
  | either first second => first.isAnchored direction && second.isAnchored direction
  | repeated body least _ => 0 < least && body.isAnchored direction
  | group _ body => body.isAnchored direction
  | _ => false

/-- The room of the layout of a whole pattern: any bytes come first unless the pattern is anchored,
and a stop comes last.  Reading forward, the ends of the whole text found are kept. -/
def layoutSize (direction : Direction) (pattern : Pattern) : Nat :=
  let start := if pattern.isAnchored direction then step else 3 * step + byteRange + 2 * way
  let ends := if direction = .forward then 2 * step else 0
  start + ends + pattern.footprint direction false + step

/-- Both layouts of the pattern have room. -/
def fits (pattern : Pattern) : Bool :=
  pattern.layoutSize .backward ≤ limit && pattern.layoutSize .forward ≤ limit

end Pattern

end RpgLint
