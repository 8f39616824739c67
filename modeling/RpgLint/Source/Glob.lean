import RpgLint.Pattern.Automaton
import RpgLint.Text.Letters

/-!
# Globs

A glob describes paths: `*` stands for any bytes, `?` for one byte, brackets for one byte of a
class, and braces for one of several globs.  `**` as a whole name stands for any number of
directories.  A glob describes whole paths, and bytes of characters are told apart: a character
outside of ASCII takes more than one `?`.

## Main definitions

* `GlobPart`, `Glob` — the parts of a glob, and a glob with its text.
* `Glob.pattern` — the glob as a pattern for the bytes of a path.
* `Glob.accepts` — the glob describes the path.
* `Glob.depth` — how deep its parts stand in one another.
-/

namespace RpgLint

/-- A part of a glob. -/
inductive GlobPart
  /-- A character. -/
  | literal (c : Char)
  /-- One byte. -/
  | anyByte
  /-- Any bytes. -/
  | anyBytes
  /-- A byte of a class of ranges, or a byte outside of it. -/
  | byteOf (negated : Bool) (ranges : List (Char × Char))
  /-- Any number of directories at the start, with the slash after them. -/
  | leading
  /-- Everything under a directory, with the slash before it. -/
  | trailing
  /-- Any number of directories in between, with the slashes around them. -/
  | between
  /-- One of several globs. -/
  | choice (alternatives : List (List GlobPart))

/-- The bytes of a text, each as the character with its number. -/
def byteChars (s : String) : List Char := s.toUTF8.toList.map fun byte => Char.ofNat byte.toNat

namespace CharSet

/-- The bytes of a range of a class.  Each byte of the two characters counts on its own, and the
range lies between the last byte of the first and the first byte of the second. -/
def ofByteRange (first last : Char) : CharSet :=
  let low := byteChars (String.ofList [first])
  let high := byteChars (String.ofList [last])
  if first = last then unions (low.map single)
  else
    let between := range ((low.getLast?.map Char.toNat).getD 0) ((high.head?.map Char.toNat).getD 0)
    unions (low.map single ++ [between] ++ high.map single)

/-- The bytes of a class. -/
def ofByteClass (negated : Bool) (ranges : List (Char × Char)) : CharSet :=
  let members := unions (ranges.map fun (first, last) => ofByteRange first last)
  if negated then compl members else members

end CharSet

namespace GlobPart

/-- Any bytes. -/
def bytes : Pattern := .repeated (.char .all) 0 none

/-- A slash. -/
def slash : Pattern := .char (.single '/')

/-- The character of a part that is a literal. -/
def literal? : GlobPart → Option Char
  | literal c => some c
  | _ => none

mutual

/-- A part as a pattern for bytes.  Of several globs in braces the empty ones do not count. -/
def pattern : GlobPart → Pattern
  | .literal c => .ofParts ((byteChars (String.ofList [c])).map fun byte => .char (.single byte))
  | .anyByte => .char .all
  | .anyBytes => bytes
  | .byteOf negated ranges => .char (.ofByteClass negated ranges)
  | .leading => .anyOf [.empty, slash, .andThen bytes slash]
  | .trailing => .andThen slash bytes
  | .between => .anyOf [slash, .sequence [slash, bytes, slash]]
  | .choice alternatives =>
    match (alternativePatterns alternatives).filter (· ≠ .empty) with
    | [] => .empty
    | patterns => .anyOf patterns

/-- The parts of a glob one after another. -/
def inSequence : List GlobPart → Pattern
  | [] => .empty
  | part :: parts => .andThen part.pattern (inSequence parts)

/-- Each glob of a list as a pattern. -/
def alternativePatterns : List (List GlobPart) → List Pattern
  | [] => []
  | parts :: others => inSequence parts :: alternativePatterns others

end

/-- How many members a class has that are characters or ranges of their own, when its characters are
written as bytes. -/
def memberCount (ranges : List (Char × Char)) : Nat :=
  ranges.foldr
    (fun (first, last) count =>
      (if first = last then first.utf8Size else first.utf8Size + last.utf8Size - 1) + count) 0

mutual

/-- How many items of a sequence a part is, and how deep the deepest of them is, when the part is
written as a regular expression.  Braces without a glob that counts are no item. -/
def extent : GlobPart → Nat × Nat
  | .literal c => (c.utf8Size, 0)
  | .anyByte => (1, 0)
  | .anyBytes => (1, 1)
  | .trailing => (2, 1)
  | .byteOf _ ranges => (1, if 1 < memberCount ranges then 2 else 1)
  -- a group of several branches, one of which is a sequence with a repetition
  | .leading | .between => (1, 4)
  | .choice alternatives =>
    match alternativeExtents alternatives with
    | (0, _) => (0, 0)
    | (1, deepest) => (1, deepest + 1)
    | (_, deepest) => (1, deepest + 2)

/-- The items of several parts, and how deep the deepest of them is. -/
def extents : List GlobPart → Nat × Nat
  | [] => (0, 0)
  | part :: parts =>
    let (count, depth) := part.extent
    let (counts, depths) := extents parts
    (count + counts, max depth depths)

/-- How many globs of a list count, and how deep the deepest of them is. -/
def alternativeExtents : List (List GlobPart) → Nat × Nat
  | [] => (0, 0)
  | parts :: others =>
    let (count, deepest) := alternativeExtents others
    match extents parts with
    | (0, _) => (count, deepest)
    | (1, depth) => (count + 1, max depth deepest)
    | (_, depth) => (count + 1, max (depth + 1) deepest)

end

/-- The parts end in a dot with nothing but characters of a name behind it. -/
def endInExtension (parts : List GlobPart) : Bool :=
  let isNameChar := fun (part : GlobPart) =>
    match part.literal? with
    | some c => c != '.' && c != '/'
    | none => false
  match (parts.reverse.dropWhile isNameChar).head? with
  | some (.literal c) => c == '.'
  | _ => false

/-- All parts are literals. -/
def areLiteral (parts : List GlobPart) : Bool := parts.all (·.literal?.isSome)

/-- The literals are an extension with the dot in front of it. -/
def areExtension (parts : List GlobPart) : Bool :=
  match parts with
  | .literal '.' :: parts =>
    parts.all fun part => part.literal? != some '.' && part.literal? != some '/'
  | _ => false

/-- The parts ask for a last name, or for an extension of it, and not merely for an end of the
path. -/
def askForName : List GlobPart → Bool
  | .leading :: .anyBytes :: parts | .anyBytes :: parts =>
    if areLiteral parts then areExtension parts else endInExtension parts
  | .leading :: parts =>
    if areLiteral parts then !parts.isEmpty && parts.all (·.literal? != some '/')
    else endInExtension parts
  | parts => !areLiteral parts && endInExtension parts

end GlobPart

/-- A glob. -/
structure Glob where
  /-- The glob as written. -/
  text : String
  /-- Its parts. -/
  parts : List GlobPart

namespace Glob

/-- The glob as a pattern for the bytes of a whole path.  A glob of `**` alone stands for every
path. -/
def pattern (glob : Glob) : Pattern :=
  match glob.parts with
  | [.leading] => GlobPart.bytes
  | parts => .sequence [.assertion .textStart, GlobPart.inSequence parts, .assertion .textEnd]

/-- The last name of the path is that of a parent directory. -/
def endsInParent (path : String) : Bool := path == ".." || endsWith path "/.."

/-- The glob describes the path.  Two dots at the end of a path are no name, so that a glob which
asks for a name or for its extension does not describe such a path. -/
def accepts (glob : Glob) (path : String) : Bool :=
  !(GlobPart.askForName glob.parts && endsInParent path) &&
    glob.pattern.automaton.occursIn (String.ofList (byteChars path))

/-- How deep the parts of the glob stand in one another, when it is written as a regular expression
between two anchors. -/
def depth (glob : Glob) : Nat := (GlobPart.extents glob.parts).2 + 1

end Glob

end RpgLint
