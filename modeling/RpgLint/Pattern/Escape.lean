import RpgLint.Pattern.Basic
import RpgLint.Pattern.Flags
import RpgLint.Text.Letters

/-!
# Escapes in written patterns

## Main definitions

* `Atom` — what a single letter or escape stands for.
* `Atom.escape` — what a backslash and the characters behind it stand for.
* `Atom.pattern`, `Atom.set` — the atom in a pattern and in a class.
-/

namespace RpgLint

/-- What a single letter or escape stands for. -/
inductive Atom
  /-- A character; `isByte` says that it was written as a byte. -/
  | literal (c : Char) (isByte : Bool)
  /-- A character of a set. -/
  | set (members : CharSet)
  /-- A condition on the place. -/
  | look (condition : Assertion)

namespace Atom

/-- The character that a code point in hexadecimal digits names. -/
def ofHex (digits : List Char) (isByte : Bool) : Except PatternFault Atom :=
  match digits.foldlM (fun n c => (digitValue? c).map (16 * n + ·)) 0 with
  | none => .error .unfinishedEscape
  | some n =>
    if n.isValidChar then .ok (.literal (Char.ofNat n) isByte) else .error .invalidCodePoint

/-- So many hexadecimal digits at the start of a text, and the rest. -/
def hexDigits (flags : PatternFlags) :
    (count : Nat) → List Char → Except PatternFault (List Char × List Char)
  | 0, cs => .ok ([], cs)
  | _, [] => .error .unfinishedEscape
  | count + 1, c :: cs =>
    if (digitValue? c).isSome then
      (hexDigits flags count (flags.skip cs)).map fun (digits, rest) => (c :: digits, rest)
    else .error .unfinishedEscape

/-- An escape by code point: so many digits, or any number of them in braces. -/
def codePoint (flags : PatternFlags) (width : Nat) (cs : List Char) :
    Except PatternFault (Atom × List Char) :=
  match flags.skip cs with
  | '\x7b' :: rest =>
    match flags.takeWhile (fun c => (digitValue? c).isSome) rest.length (flags.skip rest) with
    | (c :: digits, '\x7d' :: rest) => (ofHex (c :: digits) false).map (·, rest)
    | _ => .error .unfinishedEscape
  | cs =>
    match hexDigits flags width cs with
    | .error fault => .error fault
    | .ok (digits, rest) => (ofHex digits (width == 2)).map (·, rest)

/-- The class that a letter behind a backslash names; a capital letter stands for the characters
outside. -/
def letterClass (flags : PatternFlags) (letter : Char) : Except PatternFault CharSet :=
  let ascii := fun name => (CharSet.ofAsciiName? name).getD .none
  let base : CharSet := match letter.toLower with
    | 'd' => if flags.unicode then .digit else ascii "digit"
    | 's' => if flags.unicode then .space else ascii "space"
    | _ => if flags.unicode then .word else ascii "word"
  if isAsciiLower letter then .ok base else flags.negate base

/-- The places among words with a name in braces. -/
def namedBoundary? (name : String) : Option WordPlace :=
  match name with
  | "start" => some .start
  | "end" => some .stop
  | "start-half" => some .startHalf
  | "end-half" => some .stopHalf
  | _ => none

/-- What follows `\b`: a name in braces, or nothing that belongs to it. -/
def boundary (flags : PatternFlags) (cs : List Char) : Except PatternFault (Atom × List Char) :=
  let look := fun place => Atom.look (.word flags.unicode place)
  let isNameChar := fun c => isAsciiLetter c || c == '-'
  match cs with
  | '\x7b' :: rest =>
    let rest := flags.skip rest
    match flags.takeWhile isNameChar rest.length rest with
    | ([], []) => .error .unclosedCount
    -- a brace in front of no name is left to be read as a count
    | ([], _) => .ok (look .boundary, cs)
    | (name, '\x7d' :: rest) =>
      match namedBoundary? (String.ofList name) with
      | some place => .ok (look place, rest)
      | none => .error .unrecognizedEscape
    | _ => .error .unrecognizedEscape
  | _ => .ok (look .boundary, cs)

/-- What a backslash and the characters behind it stand for. -/
def escape (flags : PatternFlags) (cs : List Char) : Except PatternFault (Atom × List Char) :=
  match cs with
  | [] => .error .unfinishedEscape
  | c :: rest =>
    let literal := fun (c : Char) => Except.ok (Atom.literal c false, rest)
    let look := fun condition => Except.ok (Atom.look condition, rest)
    if isAsciiDigit c then .error .backReference
    else if c == 'x' then codePoint flags 2 rest
    else if c == 'u' then codePoint flags 4 rest
    else if c == 'U' then codePoint flags 8 rest
    else if c == 'p' || c == 'P' then .error .unsupportedClass
    else if ['d', 's', 'w', 'D', 'S', 'W'].contains c then
      (letterClass flags c).map fun set => (.set set, rest)
    else if c == 'a' then literal '\x07'
    else if c == 'f' then literal '\x0c'
    else if c == 't' then literal '\t'
    else if c == 'n' then literal '\n'
    else if c == 'r' then literal '\r'
    else if c == 'v' then literal '\x0b'
    else if c == 'A' then look .textStart
    else if c == 'z' then look .textEnd
    else if c == 'b' then boundary flags rest
    else if c == 'B' then look (.word flags.unicode .notBoundary)
    else if c == '<' then look (.word flags.unicode .start)
    else if c == '>' then look (.word flags.unicode .stop)
    else if c.toNat < 0x80 && !isAsciiLetter c then literal c
    else .error .unrecognizedEscape

/-- The pattern of an atom.  Outside of Unicode a byte must be a character of its own. -/
def pattern (flags : PatternFlags) : Atom → Except PatternFault Pattern
  | .literal c isByte =>
    if isByte && !flags.unicode && 0x80 ≤ c.toNat then .error .unsupportedClass
    else .ok (.char (flags.close (.single c)))
  | .set members => .ok (.char members)
  | .look condition => .ok (.assertion condition)

/-- The set of an atom that is a member of a class.  Outside of Unicode the members of a class are
ASCII. -/
def toSet (flags : PatternFlags) : Atom → Except PatternFault CharSet
  | .literal c _ =>
    if !flags.unicode && 0x80 ≤ c.toNat then .error .unsupportedClass else .ok (.single c)
  | .set members => .ok members
  | .look _ => .error .invalidClassEscape

end Atom

end RpgLint
