import RpgLint.Json.Basic
import RpgLint.Text.Letters

/-!
# Reading JSON

A text holds one value, with blanks around it and between its parts.

## Main definitions

* `Json.readString`, `Json.readNumber` — the written forms of strings and numbers.
* `Json.readValue` — a value at the start of a text.
* `Json.read?` — the value of a text.
-/

namespace RpgLint.Json

/-- The blanks of JSON. -/
def isSpace (c : Char) : Bool := c == ' ' || c == '\n' || c == '\t' || c == '\r'

/-- The text after leading blanks. -/
def skipSpace (cs : List Char) : List Char := cs.dropWhile isSpace

/-- The number that four hexadecimal digits write. -/
def fourDigits? (a b c d : Char) : Option Nat := do
  let a ← digitValue? a
  let b ← digitValue? b
  let c ← digitValue? c
  let d ← digitValue? d
  return ((a * 16 + b) * 16 + c) * 16 + d

/-- The first half of a surrogate pair. -/
def isLeading (unit : Nat) : Bool := 0xD800 ≤ unit && unit ≤ 0xDBFF

/-- The second half of a surrogate pair. -/
def isTrailing (unit : Nat) : Bool := 0xDC00 ≤ unit && unit ≤ 0xDFFF

/-- The character that a surrogate pair writes. -/
def pairChar (leading trailing : Nat) : Char :=
  Char.ofNat (0x10000 + (leading - 0xD800) * 0x400 + (trailing - 0xDC00))

/-- The character that a letter after a backslash stands for. -/
def escapeLetter? (c : Char) : Option Char :=
  match c with
  | '"' => some '"'
  | '\\' => some '\\'
  | '/' => some '/'
  | 'b' => some '\x08'
  | 'f' => some '\x0c'
  | 'n' => some '\n'
  | 'r' => some '\r'
  | 't' => some '\t'
  | _ => none

/-- A character in front of the rest of a string; with `none` the string cannot be held by a
text. -/
def prependChar (c : Option Char) :
    Option (Option (List Char) × List Char) → Option (Option (List Char) × List Char)
  | none => none
  | some (text, rest) => some ((do return (← c) :: (← text)), rest)

/-- The unit of an escape at the start of a text: `none` when no escape of that kind stands there,
and `some none` when its digits are malformed. -/
def unitAhead? : List Char → Option (Option Nat)
  | '\\' :: 'u' :: a :: b :: c :: d :: _ => some (fourDigits? a b c d)
  | _ => none

/-- The characters of a string up to its closing quote, and the text after it.  The characters are
`none` when half of a surrogate pair stands alone. -/
def readString : List Char → Option (Option (List Char) × List Char)
  | [] => none
  | '"' :: rest => some (some [], rest)
  | '\\' :: 'u' :: a :: b :: c :: d :: rest =>
    match fourDigits? a b c d with
    | none => none
    | some unit =>
      -- half a pair makes the string unreadable, but the reading goes on to its end
      if isTrailing unit then prependChar none (readString rest)
      else if !isLeading unit then prependChar (some (Char.ofNat unit)) (readString rest)
      else match unitAhead? rest with
        | some none => none
        | some (some next) =>
          if isTrailing next then prependChar (some (pairChar unit next)) (readString (rest.drop 6))
          else prependChar none (readString rest)
        | none => prependChar none (readString rest)
  | '\\' :: c :: rest =>
    match escapeLetter? c with
    | some c => prependChar (some c) (readString rest)
    | none => none
  | c :: rest => if c.toNat < 0x20 then none else prependChar (some c) (readString rest)
termination_by text => text.length
decreasing_by all_goals simp only [List.length_cons, List.length_drop]; omega

/-- The digits at the start of a text, and the text after them. -/
def spanDigits (cs : List Char) : List Char × List Char :=
  (cs.takeWhile isAsciiDigit, cs.dropWhile isAsciiDigit)

/-- A fraction, if there is one. -/
def readFraction (cs : List Char) : Option (List Char × List Char) :=
  match cs with
  | '.' :: cs =>
    let (digits, rest) := spanDigits cs
    if digits.isEmpty then none else some ('.' :: digits, rest)
  | cs => some ([], cs)

/-- An exponent, if there is one. -/
def readExponent (cs : List Char) : Option (List Char × List Char) :=
  match cs with
  | [] => some ([], [])
  | e :: rest =>
    if e = 'e' || e = 'E' then
      let sign := rest.takeWhile fun c => c == '+' || c == '-'
      let (digits, after) := spanDigits (rest.drop sign.length)
      if 1 < sign.length || digits.isEmpty then none else some (e :: sign ++ digits, after)
    else some ([], cs)

/-- A number at the start of a text, and the text after it.  A number of several digits does not
begin with zero. -/
def readNumber (cs : List Char) : Option (Number × List Char) := do
  let negative := cs.head? == some '-'
  let (whole, rest) := spanDigits (if negative then cs.drop 1 else cs)
  if whole.isEmpty || (whole.head? == some '0' && 1 < whole.length) then none
  else
    let (fraction, rest) ← readFraction rest
    let (exponent, rest) ← readExponent rest
    if negative || !fraction.isEmpty || !exponent.isEmpty then
      let sign := if negative then ['-'] else []
      return (.written (String.ofList (sign ++ whole ++ fraction ++ exponent)), rest)
    else return (.natural (decimalValue (String.ofList whole)), rest)

/-- The object with one more field in front.  A name that no text can hold makes the object
unreadable. -/
def withField (name : Option (List Char)) (value : Json) : Json → Json
  | object fields =>
    match name with
    | some name => object ((String.ofList name, value) :: fields)
    | none => unreadable
  | other => other

mutual

/-- A value at the start of a text, and the text after it.  Every step reads a character, so that
the length of the text is fuel enough. -/
def readValue : Nat → List Char → Option (Json × List Char)
  | 0, _ => none
  | fuel + 1, cs =>
    match skipSpace cs with
    | '"' :: rest =>
      match readString rest with
      | some (some text, rest) => some (string (String.ofList text), rest)
      | some (none, rest) => some (unreadable, rest)
      | none => none
    | '[' :: rest =>
      match skipSpace rest with
      | ']' :: rest => some (array [], rest)
      | rest => (readItems fuel rest).map fun (items, rest) => (array items, rest)
    | '\x7b' :: rest =>
      match skipSpace rest with
      | '\x7d' :: rest => some (object [], rest)
      | rest => readFields fuel rest
    | 'n' :: 'u' :: 'l' :: 'l' :: rest => some (null, rest)
    | 't' :: 'r' :: 'u' :: 'e' :: rest => some (bool true, rest)
    | 'f' :: 'a' :: 'l' :: 's' :: 'e' :: rest => some (bool false, rest)
    | cs => (readNumber cs).map fun (value, rest) => (number value, rest)

/-- The items of an array up to its closing bracket, at least one. -/
def readItems : Nat → List Char → Option (List Json × List Char)
  | 0, _ => none
  | fuel + 1, cs =>
    match readValue fuel cs with
    | none => none
    | some (item, rest) =>
      match skipSpace rest with
      | ',' :: rest => (readItems fuel rest).map fun (items, rest) => (item :: items, rest)
      | ']' :: rest => some ([item], rest)
      | _ => none

/-- The fields of an object up to its closing brace, at least one. -/
def readFields : Nat → List Char → Option (Json × List Char)
  | 0, _ => none
  | fuel + 1, cs =>
    match skipSpace cs with
    | '"' :: rest =>
      match readString rest with
      | none => none
      | some (name, rest) =>
        match skipSpace rest with
        | ':' :: rest =>
          match readValue fuel rest with
          | none => none
          | some (value, rest) =>
            match skipSpace rest with
            | ',' :: rest =>
              (readFields fuel rest).map fun (others, rest) => (withField name value others, rest)
            | '\x7d' :: rest => some (withField name value (object []), rest)
            | _ => none
        | _ => none
    | _ => none

end

/-- The value of a text. -/
def read? (text : String) : Option Json :=
  let cs := text.toList
  match readValue (2 * cs.length + 2) cs with
  | some (value, rest) => if (skipSpace rest).isEmpty then some value else none
  | none => none

end RpgLint.Json
