import RpgLint.Pattern.Automaton
import RpgLint.Pattern.Bracket
import RpgLint.Pattern.Footprint
import RpgLint.Pattern.GroupName
import RpgLint.Rule.Compiled

/-!
# Written patterns

Patterns are written as regular expressions without back-references and without looking around.  A
text may be well formed and still be refused: when its parts stand too deep in one another, or when
the pattern takes up too much room.

## Main definitions

* `Pattern.count` — the bounds of a counted repetition.
* `Pattern.Frame` — a group that is being read.
* `Pattern.depthLimit` — how deep the parts of a pattern may stand in one another.
* `Pattern.read` — the pattern that a text writes.
* `Pattern.engine` — an engine for the patterns of rules.
-/

namespace RpgLint.Pattern

/-- A decimal number with blanks around it, and the text after it. -/
def countNumber (flags : PatternFlags) (cs : List Char) : Option Nat × List Char :=
  let cs := cs.dropWhile isBlank
  let (digits, rest) := flags.takeWhile isAsciiDigit cs.length cs
  let value := decimalValue (String.ofList digits)
  let bound := if digits.isEmpty || 0x100000000 ≤ value then none else some value
  (bound, flags.skip (rest.dropWhile isBlank))

/-- The bounds of a counted repetition whose opening brace has been read.  The comma and the closing
brace of a repetition without an upper bound stand side by side. -/
def count (flags : PatternFlags) (cs : List Char) :
    Except PatternFault (Nat × Option Nat × List Char) :=
  match countNumber flags (flags.skip cs) with
  | (none, _) => .error .invalidCount
  | (some least, '\x7d' :: rest) => .ok (least, some least, rest)
  | (some least, ',' :: rest) =>
    match flags.skip rest with
    | '\x7d' :: rest => .ok (least, none, rest)
    | rest =>
      match countNumber flags rest with
      | (some most, '\x7d' :: rest) =>
        if least ≤ most then .ok (least, some most, rest) else .error .invalidCount
      | (none, _) => .error .invalidCount
      | _ => .error .unclosedCount
  | _ => .error .unclosedCount

/-- The modes after a list of switches.  Each letter may stand once, and one `-` with a letter after
it. -/
def switchFlags (flags : PatternFlags) (on : Bool) (seen : List Char) :
    List Char → Except PatternFault PatternFlags
  | [] => if seen.head? == some '-' then .error .unrecognizedFlag else .ok flags
  | c :: cs =>
    if seen.contains c then .error .unrecognizedFlag
    else if c == '-' then switchFlags flags false (c :: seen) cs
    else match flags.switch? c on with
      | some flags => switchFlags flags on (c :: seen) cs
      | none => .error .unrecognizedFlag

/-- A part of a branch, and how deep it is. -/
structure Piece where
  /-- The pattern; a switch of modes has none. -/
  pattern : Option Pattern
  /-- How deep the written part is. -/
  depth : Nat

/-- A group that is being read: its complete branches and the parts of the last one, both from the
end, and the modes in force. -/
structure Frame where
  /-- The number of the group, if it has one. -/
  number : Option Nat := none
  /-- Complete branches with their depths. -/
  branches : List (Pattern × Nat) := []
  /-- Parts of the branch that is being read. -/
  pieces : List Piece := []
  /-- The modes in force. -/
  flags : PatternFlags := {}

/-- How deep several parts are together that stand in something of their own, and a single part as
it is. -/
def totalDepth (depths : List Nat) : Nat :=
  let deepest := depths.foldl max 0
  if 1 < depths.length then deepest + 1 else deepest

namespace Frame

/-- The branch that is being read, with its depth. -/
def branch (frame : Frame) : Pattern × Nat :=
  (sequence (frame.pieces.filterMap Piece.pattern).reverse,
    totalDepth (frame.pieces.map Piece.depth))

/-- The branches of the group, with the depth of their choice. -/
def choice (frame : Frame) : Pattern × Nat :=
  let branches := frame.branch :: frame.branches
  (anyOf (branches.map Prod.fst).reverse, totalDepth (branches.map Prod.snd))

/-- The frame with the next branch begun. -/
def next (frame : Frame) : Frame :=
  { frame with branches := frame.branch :: frame.branches, pieces := [] }

/-- The frame with one more part. -/
def push (frame : Frame) (pattern : Pattern) (depth : Nat) : Frame :=
  { frame with pieces := ⟨some pattern, depth⟩ :: frame.pieces }

/-- The frame with a switch of modes. -/
def switch (frame : Frame) (flags : PatternFlags) : Frame :=
  { frame with pieces := ⟨none, 0⟩ :: frame.pieces, flags }

/-- The frame with a complete group as one more part. -/
def pushGroup (frame inner : Frame) : Frame :=
  let (pattern, depth) := inner.choice
  let pattern := match inner.number with
    | some number => .group number pattern
    | none => pattern
  frame.push pattern (depth + 1)

/-- The frame with its last part repeated. -/
def repeatLast (frame : Frame) (least : Nat) (most : Option Nat) : Except PatternFault Frame :=
  match frame.pieces with
  | ⟨some pattern, depth⟩ :: pieces =>
    .ok { frame with pieces := ⟨some (pattern.times least most), depth + 1⟩ :: pieces }
  | _ => .error .missingOperand

end Frame

/-- The pattern of a dot. -/
def dot (flags : PatternFlags) : Except PatternFault Pattern :=
  if !flags.unicode then .error .unsupportedClass
  else if flags.dotAll then .ok (.char .all)
  else if flags.crlf then .ok (.char (CharSet.union (.single '\n') (.single '\r')).compl)
  else .ok (.char (CharSet.single '\n').compl)

/-- The condition of a caret. -/
def caret (flags : PatternFlags) : Assertion :=
  if !flags.multiLine then .textStart else if flags.crlf then .crlfLineStart else .lineStart

/-- The condition of a dollar sign. -/
def dollar (flags : PatternFlags) : Assertion :=
  if !flags.multiLine then .textEnd else if flags.crlf then .crlfLineEnd else .lineEnd

/-- The text without the question mark that makes a repetition lazy. -/
def dropLazy : List Char → List Char
  | '?' :: rest => rest
  | rest => rest

/-- What an opening parenthesis begins. -/
inductive GroupOpening
  /-- A group that is counted, and may have a name. -/
  | group (name : Option (List Char))
  /-- A group that is not counted, with the modes in force inside. -/
  | scope (flags : PatternFlags)
  /-- A switch of modes for the rest of the enclosing group. -/
  | switch (flags : PatternFlags)

/-- Reads a group's name up to the closing angle bracket. -/
def groupName (cs : List Char) : Except PatternFault (GroupOpening × List Char) :=
  let name := cs.takeWhile (· != '>')
  match cs.drop name.length with
  | [] => .error .invalidGroupName
  | _ :: rest =>
    if isGroupName name then .ok (.group (some name), rest) else .error .invalidGroupName

/-- What follows an opening parenthesis. -/
def openGroup (flags : PatternFlags) (cs : List Char) :
    Except PatternFault (GroupOpening × List Char) :=
  match flags.skip cs with
  | '?' :: '=' :: _ | '?' :: '!' :: _ => .error .lookAround
  | '?' :: '<' :: '=' :: _ | '?' :: '<' :: '!' :: _ => .error .lookAround
  | '?' :: 'P' :: '<' :: rest => groupName rest
  | '?' :: '<' :: rest => groupName rest
  | '?' :: rest =>
    let switches := rest.takeWhile fun c => c != ':' && c != ')'
    match rest.drop switches.length with
    | [] => .error .unclosedGroup
    | close :: after =>
      if switches.isEmpty && close == ')' then .error .missingOperand
      else (switchFlags flags true [] switches).map fun inner =>
        (if close == ':' then .scope inner else .switch inner, after)
  | cs => .ok (.group none, cs)

/-- Reads a pattern.  `outer` are the enclosing groups, the innermost first, `names` the names of
groups so far and `groups` the number of groups so far.  Every step reads a character, so that the
length of the text is fuel enough. -/
def readFrom :
    (fuel : Nat) → (outer : List Frame) → (names : List (List Char)) → (groups : Nat) → Frame →
    List Char → Except PatternFault (Pattern × Nat)
  | 0, _, _, _, _, _ => .error .unclosedGroup
  | fuel + 1, outer, names, groups, frame, cs =>
    let flags := frame.flags
    let continueWith := fun (found : Except PatternFault Frame) (rest : List Char) =>
      match found with
      | .error fault => .error fault
      | .ok frame => readFrom fuel outer names groups frame rest
    match flags.skip cs with
    | [] => if outer.isEmpty then .ok frame.choice else .error .unclosedGroup
    | '(' :: rest =>
      match openGroup flags rest with
      | .error fault => .error fault
      | .ok (.switch inner, rest) => readFrom fuel outer names groups (frame.switch inner) rest
      | .ok (.scope inner, rest) =>
        readFrom fuel (frame :: outer) names groups { flags := inner } rest
      | .ok (.group none, rest) =>
        readFrom fuel (frame :: outer) names (groups + 1)
          { number := some (groups + 1), flags } rest
      | .ok (.group (some name), rest) =>
        if names.contains name then .error .invalidGroupName
        else
          readFrom fuel (frame :: outer) (name :: names) (groups + 1)
            { number := some (groups + 1), flags } rest
    | ')' :: rest =>
      match outer with
      | [] => .error .unopenedGroup
      | parent :: outer => readFrom fuel outer names groups (parent.pushGroup frame) rest
    | '|' :: rest => readFrom fuel outer names groups frame.next rest
    | '[' :: rest =>
      match Bracket.read flags rest with
      | .error fault => .error fault
      | .ok ((set, depth), rest) =>
        readFrom fuel outer names groups (frame.push (.char set) depth) rest
    | '*' :: rest => continueWith (frame.repeatLast 0 none) (dropLazy rest)
    | '+' :: rest => continueWith (frame.repeatLast 1 none) (dropLazy rest)
    | '?' :: rest => continueWith (frame.repeatLast 0 (some 1)) (dropLazy rest)
    | '\x7b' :: rest =>
      match count flags rest with
      | .error fault => .error fault
      | .ok (least, most, rest) =>
        continueWith (frame.repeatLast least most) (dropLazy (flags.skip rest))
    | '\\' :: rest =>
      match Atom.escape flags rest with
      | .error fault => .error fault
      | .ok (atom, rest) => continueWith ((atom.pattern flags).map (frame.push · 0)) rest
    | '.' :: rest => continueWith ((dot flags).map (frame.push · 0)) rest
    | '^' :: rest => readFrom fuel outer names groups (frame.push (.assertion (caret flags)) 0) rest
    | '$' :: rest =>
      readFrom fuel outer names groups (frame.push (.assertion (dollar flags)) 0) rest
    | c :: rest => continueWith (((Atom.literal c false).pattern flags).map (frame.push · 0)) rest

/-- How deep the parts of a pattern may stand in one another. -/
def depthLimit : Nat := 250

/-- The pattern that the text writes, without regard to case unless it says otherwise. -/
def read (text : String) : Except PatternFault Pattern :=
  let cs := text.toList
  match readFrom (cs.length + 1) [] [] 0 {} cs with
  | .error fault => .error fault
  | .ok (pattern, depth) =>
    if depthLimit < depth then .error .nestedTooDeep
    else if !pattern.fits then .error .tooLarge
    else .ok pattern

/-- The engine that the program runs with.  It knows no classes of characters by Unicode property:
patterns that name one are refused. -/
def engine : PatternEngine where
  read text :=
    match read text with
    | .ok pattern => .ok pattern.automaton.occursIn
    | .error fault => .error fault.message

end RpgLint.Pattern
