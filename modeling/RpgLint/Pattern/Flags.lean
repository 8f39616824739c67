import RpgLint.Pattern.CharSet

/-!
# Modes of written patterns

A pattern is read in modes, which it can switch for a part of itself.  Letters are compared without
regard to case unless the pattern says otherwise.

## Main definitions

* `PatternFault` — why a text is no pattern.
* `PatternFlags` — the modes that `(?...)` switches.
* `PatternFlags.skip` — passes by what means nothing in a mode.
-/

namespace RpgLint

/-- Why a text is no pattern. -/
inductive PatternFault
  | unopenedGroup
  | unclosedGroup
  | unclosedClass
  | invalidRange
  | invalidClassEscape
  | missingOperand
  | unclosedCount
  | invalidCount
  | unrecognizedEscape
  | unfinishedEscape
  | backReference
  | lookAround
  | unrecognizedFlag
  | invalidGroupName
  | invalidCodePoint
  | unsupportedClass
  | nestedTooDeep
  | tooLarge
  deriving DecidableEq, Repr

/-- The fault in words. -/
def PatternFault.message : PatternFault → String
  | unopenedGroup => "unopened group"
  | unclosedGroup => "unclosed group"
  | unclosedClass => "unclosed character class"
  | invalidRange => "invalid character class range"
  | invalidClassEscape => "invalid escape sequence found in character class"
  | missingOperand => "repetition operator missing expression"
  | unclosedCount => "unclosed counted repetition"
  | invalidCount => "invalid repetition count"
  | unrecognizedEscape => "unrecognized escape sequence"
  | unfinishedEscape => "incomplete escape sequence"
  | backReference => "backreferences are not supported"
  | lookAround => "look-around is not supported"
  | unrecognizedFlag => "unrecognized flag"
  | invalidGroupName => "invalid capture group name"
  | invalidCodePoint => "hexadecimal literal is not a Unicode scalar value"
  | unsupportedClass => "character class not supported"
  | nestedTooDeep => "exceeded the maximum number of nested parentheses and brackets"
  | tooLarge => "compiled pattern exceeds size limit"

/-- The modes of a pattern. -/
structure PatternFlags where
  /-- Letters match in any case. -/
  ignoreCase : Bool := true
  /-- `^` and `$` match at lines. -/
  multiLine : Bool := false
  /-- `.` matches a line feed. -/
  dotAll : Bool := false
  /-- A carriage return ends lines too. -/
  crlf : Bool := false
  /-- Blanks and comments in the pattern mean nothing. -/
  verbose : Bool := false
  /-- Classes follow Unicode. -/
  unicode : Bool := true

namespace PatternFlags

/-- The set as the modes want it: closed under case, or not. -/
def close (flags : PatternFlags) (set : CharSet) : CharSet :=
  if flags.ignoreCase then set.closeCase (if flags.unicode then foldings else asciiFoldings)
  else set

/-- Characters outside of the set.  Outside of Unicode that would be bytes which are no
characters. -/
def negate (flags : PatternFlags) (set : CharSet) : Except PatternFault CharSet :=
  if flags.unicode then .ok set.compl else .error .unsupportedClass

/-- Switches one mode. -/
def switch? (flags : PatternFlags) (letter : Char) (on : Bool) : Option PatternFlags :=
  match letter with
  | 'i' => some { flags with ignoreCase := on }
  | 'm' => some { flags with multiLine := on }
  | 's' => some { flags with dotAll := on }
  | 'R' => some { flags with crlf := on }
  | 'x' => some { flags with verbose := on }
  | 'u' => some { flags with unicode := on }
  | 'U' => some flags
  | _ => none

/-- The text after blanks and comments.  Every step passes by a character, so that the length of the
text is fuel enough. -/
def skipComments : (fuel : Nat) → List Char → List Char
  | 0, cs => cs
  | _, [] => []
  | fuel + 1, c :: cs =>
    if isBlank c then skipComments fuel cs
    else if c == '#' then skipComments fuel ((cs.dropWhile (· != '\n')).drop 1)
    else c :: cs

/-- The text after the blanks and comments that mean nothing in verbose mode. -/
def skip (flags : PatternFlags) (cs : List Char) : List Char :=
  if flags.verbose then skipComments cs.length cs else cs

/-- The characters with a property at the start of a text, and the rest.  What means nothing may
stand behind each of them.  The length of the text is fuel enough. -/
def takeWhile (flags : PatternFlags) (property : Char → Bool) :
    (fuel : Nat) → List Char → List Char × List Char
  | 0, cs => ([], cs)
  | _, [] => ([], [])
  | fuel + 1, c :: cs =>
    if property c then
      let (taken, rest) := takeWhile flags property fuel (flags.skip cs)
      (c :: taken, rest)
    else ([], c :: cs)

end PatternFlags

end RpgLint
