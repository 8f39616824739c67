import RpgLint.Json.Basic

/-!
# Writing JSON

Values are written on one line, or with a line for each item and two blanks for each level.  Strings
keep all characters but the quote, the backslash and the control characters below the blank.

## Main definitions

* `Json.escapeChar`, `Json.quote` — the written form of a string.
* `Json.compact`, `Json.pretty` — the written forms of a value.
-/

namespace RpgLint.Json

/-- The hexadecimal digit of a number below sixteen. -/
def hexDigit (n : Nat) : Char := if n < 10 then Char.ofNat (0x30 + n) else Char.ofNat (0x57 + n)

/-- The written form of a character of a string. -/
def escapeChar (c : Char) : List Char :=
  if c = '"' then ['\\', '"']
  else if c = '\\' then ['\\', '\\']
  else if c = '\x08' then ['\\', 'b']
  else if c = '\x0c' then ['\\', 'f']
  else if c = '\n' then ['\\', 'n']
  else if c = '\r' then ['\\', 'r']
  else if c = '\t' then ['\\', 't']
  else if c.toNat < 0x20 then
    ['\\', 'u', '0', '0', hexDigit (c.toNat / 16), hexDigit (c.toNat % 16)]
  else [c]

/-- The written form of a string. -/
def quote (text : String) : List Char := '"' :: text.toList.flatMap escapeChar ++ ['"']

/-- The written form of a number. -/
def Number.chars : Number → List Char
  | .natural value => Nat.toDigits 10 value
  | .written text => text.toList

/-- A line feed and two blanks for each level. -/
def newLine (level : Nat) : List Char := '\n' :: List.replicate (2 * level) ' '

mutual

/-- The characters of a value on one line. -/
def compactChars : Json → List Char
  | null | unreadable => "null".toList
  | bool value => (if value then "true" else "false").toList
  | number value => value.chars
  | string text => quote text
  | array items => '[' :: compactItems true items ++ [']']
  | object fields => '\x7b' :: compactFields true fields ++ ['\x7d']

/-- The characters of items on one line; a comma stands before all but the first. -/
def compactItems (first : Bool) : List Json → List Char
  | [] => []
  | item :: items =>
    (if first then [] else [',']) ++ compactChars item ++ compactItems false items

/-- The characters of fields on one line; a comma stands before all but the first. -/
def compactFields (first : Bool) : List (String × Json) → List Char
  | [] => []
  | (name, value) :: fields =>
    (if first then [] else [',']) ++ quote name ++ ':' :: compactChars value ++
      compactFields false fields

end

mutual

/-- The characters of a value whose first line stands on the given level. -/
def prettyChars (level : Nat) : Json → List Char
  | null | unreadable => "null".toList
  | bool value => (if value then "true" else "false").toList
  | number value => value.chars
  | string text => quote text
  | array [] => ['[', ']']
  | array (item :: items) =>
    '[' :: (newLine (level + 1) ++ prettyChars (level + 1) item ++ prettyItems (level + 1) items ++
      newLine level ++ [']'])
  | object [] => ['\x7b', '\x7d']
  | object ((name, value) :: fields) =>
    '\x7b' :: (newLine (level + 1) ++ quote name ++ ':' :: ' ' :: prettyChars (level + 1) value ++
      prettyFields (level + 1) fields ++ newLine level ++ ['\x7d'])

/-- The characters of further items, each on a line of the given level. -/
def prettyItems (level : Nat) : List Json → List Char
  | [] => []
  | item :: items => ',' :: newLine level ++ prettyChars level item ++ prettyItems level items

/-- The characters of further fields, each on a line of the given level. -/
def prettyFields (level : Nat) : List (String × Json) → List Char
  | [] => []
  | (name, value) :: fields =>
    ',' :: newLine level ++ quote name ++ ':' :: ' ' :: prettyChars level value ++
      prettyFields level fields

end

/-- The value on one line. -/
def compact (value : Json) : String := String.ofList (compactChars value)

/-- The value with a line for each item and two blanks for each level. -/
def pretty (value : Json) : String := String.ofList (prettyChars 0 value)

end RpgLint.Json
