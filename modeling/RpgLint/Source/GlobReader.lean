import RpgLint.Source.Glob

/-!
# Written globs

## Main definitions

* `GlobFault` — why a text is no glob.
* `Glob.read` — the glob that a text writes.
-/

namespace RpgLint

/-- Why a text is no glob. -/
inductive GlobFault
  | unclosedClass
  | invalidRange
  | unopenedChoice
  | unclosedChoice
  | danglingEscape
  deriving DecidableEq, Repr

/-- The fault in words. -/
def GlobFault.message : GlobFault → String
  | unclosedClass => "unclosed character class; missing ']'"
  | invalidRange => "invalid character range"
  | unopenedChoice => "unopened alternate group; missing '\x7b'"
  | unclosedChoice => "unclosed alternate group; missing '\x7d'"
  | danglingEscape => "dangling '\\'"

namespace Glob

/-- The members of a class that is being read, from the end, and whether a range waits for its last
character. -/
structure ClassState where
  /-- Ranges so far. -/
  ranges : List (Char × Char) := []
  /-- A hyphen has been read that may join two characters. -/
  inRange : Bool := false

/-- The class with one more character. -/
def ClassState.push (state : ClassState) (c : Char) : Except GlobFault ClassState :=
  match state.inRange, state.ranges with
  | true, (first, _) :: ranges =>
    if first ≤ c then .ok ⟨(first, c) :: ranges, false⟩ else .error .invalidRange
  | _, ranges => .ok ⟨(c, c) :: ranges, false⟩

/-- The rest of a class up to its closing bracket, and the text after it.  A bracket or a hyphen at
the start is a member, and so is a hyphen at the end. -/
def readRanges (state : ClassState) : List Char → Except GlobFault (List (Char × Char) × List Char)
  | [] => .error .unclosedClass
  | c :: rest =>
    if c = ']' && !state.ranges.isEmpty then
      .ok (((if state.inRange then [('-', '-')] else []) ++ state.ranges).reverse, rest)
    else if c = '-' && !state.ranges.isEmpty && !state.inRange then
      readRanges { state with inRange := true } rest
    else match state.push c with
      | .ok state => readRanges state rest
      | .error fault => .error fault

/-- The class whose opening bracket has been read. -/
def readClass (cs : List Char) : Except GlobFault (GlobPart × List Char) :=
  match cs with
  | '!' :: rest | '^' :: rest =>
    (readRanges {} rest).map fun (ranges, rest) => (.byteOf true ranges, rest)
  | cs => (readRanges {} cs).map fun (ranges, rest) => (.byteOf false ranges, rest)

/-- A choice that is being read: its complete globs, and the parts of the last one, both from the
end. -/
structure Frame where
  /-- Complete globs. -/
  alternatives : List (List GlobPart) := []
  /-- Parts of the glob that is being read. -/
  parts : List GlobPart := []

namespace Frame

/-- The frame with one more part. -/
def push (frame : Frame) (part : GlobPart) : Frame := { frame with parts := part :: frame.parts }

/-- The frame with the slash that was read last taken into a part for directories.  Such a part
takes in another one. -/
def absorb (frame : Frame) (part : GlobPart) : Frame :=
  match frame.parts with
  | .leading :: _ | .trailing :: _ => frame
  | _ :: parts => { frame with parts := part :: parts }
  | [] => { frame with parts := [part] }

/-- The frame with the next alternative begun. -/
def next (frame : Frame) : Frame :=
  { alternatives := frame.parts.reverse :: frame.alternatives, parts := [] }

/-- The choice that the frame describes. -/
def choice (frame : Frame) : GlobPart := .choice frame.next.alternatives.reverse

end Frame

/-- Two asterisks, in front of `rest` and behind `before`.  They stand for directories when they are
a whole name, and otherwise each of them stands for any bytes. -/
def doubleStar (inChoice : Bool) (before : Option Char) (frame : Frame) (rest : List Char) :
    Frame × Option Char × List Char :=
  let plain := ((frame.push .anyBytes).push .anyBytes, some '*', rest)
  if frame.parts.isEmpty then
    -- at the start of a glob or of an alternative
    match rest with
    | [] => (frame.push .leading, some '*', [])
    | '/' :: rest => (frame.push .leading, some '/', rest)
    | _ => plain
  else if before != some '/' &&
    !(inChoice && (before == some ',' || before == some '\x7b')) then plain
  -- behind a slash, which becomes part of what the asterisks stand for
  else match rest with
    | [] => (frame.absorb .trailing, some '*', [])
    | '/' :: rest => (frame.absorb .between, some '/', rest)
    | c :: _ =>
      if inChoice && (c == ',' || c == '\x7d') then (frame.absorb .trailing, some '*', rest)
      else plain

/-- Reads the parts of a glob.  `outer` are the enclosing choices, the innermost first, and `before`
is the character in front.  Every step reads a character, so that the length of the text is fuel
enough. -/
def readFrom : Nat → List Frame → Option Char → Frame → List Char → Except GlobFault (List GlobPart)
  | 0, _, _, _, _ => .error .unclosedChoice
  | fuel + 1, outer, before, frame, cs =>
    match cs with
    | [] => if outer.isEmpty then .ok frame.parts.reverse else .error .unclosedChoice
    | '?' :: rest => readFrom fuel outer (some '?') (frame.push .anyByte) rest
    | '*' :: '*' :: rest =>
      let (frame, before, rest) := doubleStar (!outer.isEmpty) before frame rest
      readFrom fuel outer before frame rest
    | '*' :: rest => readFrom fuel outer (some '*') (frame.push .anyBytes) rest
    | '[' :: rest =>
      match readClass rest with
      | .error fault => .error fault
      | .ok (part, rest) => readFrom fuel outer (some ']') (frame.push part) rest
    | '\x7b' :: rest => readFrom fuel (frame :: outer) (some '\x7b') {} rest
    | '\x7d' :: rest =>
      match outer with
      | [] => .error .unopenedChoice
      | parent :: outer => readFrom fuel outer (some '\x7d') (parent.push frame.choice) rest
    | '\\' :: rest =>
      match rest with
      | [] => .error .danglingEscape
      | c :: rest => readFrom fuel outer (some c) (frame.push (.literal c)) rest
    | c :: rest =>
      if c = ',' && !outer.isEmpty then readFrom fuel outer (some c) frame.next rest
      else readFrom fuel outer (some c) (frame.push (.literal c)) rest

/-- The glob that the text writes. -/
def read (text : String) : Except GlobFault Glob :=
  (readFrom (text.toList.length + 1) [] none {} text.toList).map fun parts => ⟨text, parts⟩

end Glob

end RpgLint
