import RpgLint.Toml.Scalar

/-!
# Reading TOML

A document is a row of statements, one on a line: headers, and keys with their values.

## Main definitions

* `Toml.depthLimit` — how deep lists and tables in braces may stand in one another.
* `Toml.readKey?` — a key, which may be dotted.
* `Toml.readValue?` — a value at the start of a text.
* `Toml.read?` — the table that a document describes.
-/

namespace RpgLint.Toml

/-- The blanks within a line. -/
def isSpace (c : Char) : Bool := c == ' ' || c == '\t'

/-- The text after leading blanks. -/
def skipSpace (cs : List Char) : List Char := cs.dropWhile isSpace

/-- Characters that may stand in a comment or a string on one line. -/
def isPrintable (c : Char) : Bool := c == '\t' || (0x20 ≤ c.toNat && c.toNat != 0x7F)

/-- Characters of a key without quotes. -/
def isBareKey (c : Char) : Bool := isAsciiLetter c || isAsciiDigit c || c == '_' || c == '-'

/-- The text after the end of a line. -/
def dropNewline? : List Char → Option (List Char)
  | '\n' :: rest => some rest
  | '\r' :: '\n' :: rest => some rest
  | _ => none

/-- The text after a comment, if there is one. -/
def skipComment? (cs : List Char) : Option (List Char) :=
  match cs with
  | '#' :: rest =>
    let comment := rest.takeWhile fun c => c != '\n' && c != '\r'
    if comment.all isPrintable then some (rest.drop comment.length) else none
  | cs => some cs

/-- The text after blanks, comments and line ends. -/
def skipLines? : Nat → List Char → Option (List Char)
  | 0, cs => some cs
  | fuel + 1, cs =>
    match skipSpace cs with
    | [] => some []
    | '#' :: rest => (skipComment? ('#' :: rest)).bind (skipLines? fuel)
    | cs =>
      match dropNewline? cs with
      | some rest => skipLines? fuel rest
      | none => some cs

/-- The number that hexadecimal digits write, so many of them, and the text after them. -/
def codePoint? (width : Nat) (cs : List Char) : Option (Char × List Char) := do
  let digits := cs.take width
  if digits.length < width then none
  else
    let value ← digits.foldlM (fun n c => (baseDigit? 16 c).map (16 * n + ·)) 0
    if value.isValidChar then return (Char.ofNat value, cs.drop width) else none

/-- The character that an escape stands for, and the text after it. -/
def escape? : List Char → Option (Char × List Char)
  | 'b' :: rest => some ('\x08', rest)
  | 't' :: rest => some ('\t', rest)
  | 'n' :: rest => some ('\n', rest)
  | 'f' :: rest => some ('\x0c', rest)
  | 'r' :: rest => some ('\r', rest)
  | '"' :: rest => some ('"', rest)
  | '\\' :: rest => some ('\\', rest)
  | 'u' :: rest => codePoint? 4 rest
  | 'U' :: rest => codePoint? 8 rest
  | _ => none

/-- The characters of a string in double quotes, and the text after it. -/
def basicString? : Nat → List Char → Option (List Char × List Char)
  | 0, _ => none
  | fuel + 1, cs =>
    match cs with
    | [] => none
    | '"' :: rest => some ([], rest)
    | '\\' :: rest => do
      let (c, rest) ← escape? rest
      let (text, rest) ← basicString? fuel rest
      return (c :: text, rest)
    | c :: rest =>
      if isPrintable c then (basicString? fuel rest).map fun (text, rest) => (c :: text, rest)
      else none

/-- The characters of a string in single quotes, and the text after it. -/
def literalString? (cs : List Char) : Option (List Char × List Char) :=
  let text := cs.takeWhile (· != '\'')
  match cs.drop text.length with
  | [] => none
  | _ :: rest => if text.all isPrintable then some (text, rest) else none

/-- The end of a line, as it is written. -/
def newline (cs : List Char) : List Char :=
  match cs with
  | '\r' :: _ => ['\r', '\n']
  | _ => ['\n']

/-- The text after blanks and line ends. -/
def skipBlankLines : (fuel : Nat) → List Char → List Char
  | 0, cs => cs
  | fuel + 1, cs =>
    match dropNewline? (skipSpace cs) with
    | some rest => skipBlankLines fuel rest
    | none => skipSpace cs

/-- A backslash that ends a line: the text after it, without the blanks and line ends that
follow. -/
def lineContinuation? (cs : List Char) : Option (List Char) :=
  (dropNewline? (skipSpace cs)).map fun rest => skipBlankLines (rest.length + 1) rest

/-- The text after three quotes in a row that close a string, and the quotes in front of the three
that belong to it. -/
def closing? (quote : Char) (cs : List Char) : Option (List Char × List Char) :=
  let quotes := cs.takeWhile (· == quote)
  -- up to two quotes may stand in front of the closing three
  let count := min quotes.length 5
  if count < 3 then none else some (quotes.take (count - 3), cs.drop count)

/-- The characters of a string of several lines, and the text after it.  Escapes count in double
quotes. -/
def multiLine? (quote : Char) : Nat → List Char → Option (List Char × List Char)
  | 0, _ => none
  | fuel + 1, cs =>
    match closing? quote cs with
    | some found => some found
    | none =>
      match dropNewline? cs with
      | some rest => (multiLine? quote fuel rest).map fun (text, rest) => (newline cs ++ text, rest)
      | none =>
        match cs with
        | [] => none
        | c :: rest =>
          if c == '\\' && quote == '"' then
            match lineContinuation? rest with
            | some rest => multiLine? quote fuel rest
            | none => do
              let (c, rest) ← escape? rest
              let (text, rest) ← multiLine? quote fuel rest
              return (c :: text, rest)
          else if isPrintable c then
            (multiLine? quote fuel rest).map fun (text, rest) => (c :: text, rest)
          else none

/-- The text after a line end that directly follows the opening quotes. -/
def dropFirstNewline (cs : List Char) : List Char := (dropNewline? cs).getD cs

/-- A part of a key, and the text after it. -/
def keyPart? (cs : List Char) : Option (String × List Char) :=
  match cs with
  | '"' :: rest =>
    (basicString? (rest.length + 1) rest).map fun (text, rest) => (String.ofList text, rest)
  | '\'' :: rest => (literalString? rest).map fun (text, rest) => (String.ofList text, rest)
  | cs =>
    let word := cs.takeWhile isBareKey
    if word.isEmpty then none else some (String.ofList word, cs.drop word.length)

/-- The parts of a key of any length, and the text after it and the blanks around it. -/
def keyParts? : (fuel : Nat) → List Char → Option (List String × List Char)
  | 0, _ => none
  | fuel + 1, cs =>
    match keyPart? (skipSpace cs) with
    | none => none
    | some (part, rest) =>
      match skipSpace rest with
      | '.' :: rest => (keyParts? fuel rest).map fun (parts, rest) => (part :: parts, rest)
      | rest => some ([part], rest)

/-- How many parts a key may have, and how deep lists and tables in braces may stand in one
another. -/
def depthLimit : Nat := 80

/-- The parts of a key, and the text after it and the blanks around it. -/
def readKey? (cs : List Char) : Option (List String × List Char) :=
  (keyParts? (cs.length + 1) cs).filter fun (parts, _) => parts.length ≤ depthLimit

/-- Characters of a value without quotes. -/
def isScalarChar (c : Char) : Bool :=
  isAsciiLetter c || isAsciiDigit c || ['+', '-', '_', '.', ':'].contains c

/-- A value without quotes, and the text after it.  A blank may stand between a date and a time. -/
def readScalar? (cs : List Char) : Option (Toml × List Char) :=
  let word := cs.takeWhile isScalarChar
  let rest := cs.drop word.length
  -- a date, a blank and a digit: the time belongs to the same value
  let joined := match dropDate? word, rest with
    | some [], ' ' :: d :: _ => isAsciiDigit d
    | _, _ => false
  if joined then
    let time := (rest.drop 1).takeWhile isScalarChar
    (scalar? (word ++ ' ' :: time)).map (·, (rest.drop 1).drop time.length)
  else (scalar? word).map (·, rest)

mutual

/-- A value at the start of a text, and the text after it.  It may have `room` levels of lists and
tables in braces.  Every step reads a character, so that the length of the text is fuel enough. -/
def readValue? : (fuel room : Nat) → List Char → Option (Toml × List Char)
  | 0, _, _ => none
  | fuel + 1, room, cs =>
    let text := fun (found : Option (List Char × List Char)) =>
      found.map fun (text, rest) => (string (String.ofList text), rest)
    match cs, room with
    | '"' :: '"' :: '"' :: rest, _ =>
      text (multiLine? '"' (rest.length + 1) (dropFirstNewline rest))
    | '\'' :: '\'' :: '\'' :: rest, _ =>
      text (multiLine? '\'' (rest.length + 1) (dropFirstNewline rest))
    | '"' :: rest, _ => text (basicString? (rest.length + 1) rest)
    | '\'' :: rest, _ => text (literalString? rest)
    | '[' :: _, 0 | '\x7b' :: _, 0 => none
    | '[' :: rest, room + 1 =>
      (readItems? fuel room rest).map fun (items, rest) => (array items, rest)
    | '\x7b' :: rest, room + 1 =>
      match skipSpace rest with
      | '\x7d' :: rest => some (table [], rest)
      | rest =>
        (readInline? fuel room [] rest).map fun (entries, rest) => (table (fieldsOf entries), rest)
    | cs, _ => readScalar? cs

/-- The items of an array up to its closing bracket, and the text after it. -/
def readItems? : (fuel room : Nat) → List Char → Option (List Toml × List Char)
  | 0, _, _ => none
  | fuel + 1, room, cs =>
    match skipLines? (cs.length + 1) cs with
    | none => none
    | some (']' :: rest) => some ([], rest)
    | some cs =>
      match readValue? fuel room cs with
      | none => none
      | some (item, rest) =>
        match skipLines? (rest.length + 1) rest with
        | some (',' :: rest) =>
          (readItems? fuel room rest).map fun (items, rest) => (item :: items, rest)
        | some (']' :: rest) => some ([item], rest)
        | _ => none

/-- The entries of a table in braces up to its closing brace, and the text after it. -/
def readInline? : (fuel room : Nat) → Entries → List Char → Option (Entries × List Char)
  | 0, _, _, _ => none
  | fuel + 1, room, entries, cs =>
    match readKey? cs with
    | some (key, '=' :: rest) =>
      match readValue? fuel room (skipSpace rest) with
      | none => none
      | some (value, rest) =>
        match entries.addDotted value true key with
        | none => none
        | some entries =>
          match skipSpace rest with
          | ',' :: rest => readInline? fuel room entries rest
          | '\x7d' :: rest => some (entries, rest)
          | _ => none
    | _ => none

end

/-- The text after the rest of a line that holds nothing but blanks and a comment. -/
def endLine? (cs : List Char) : Option (List Char) :=
  match skipComment? (skipSpace cs) with
  | some [] => some []
  | some cs => dropNewline? cs
  | none => none

/-- The entries after the statements of a text.  `current` is the table that the last header
opened. -/
def readStatements? : Nat → Entries → List String → List Char → Option Entries
  | 0, _, _, _ => none
  | fuel + 1, entries, current, cs =>
    match skipLines? (cs.length + 1) cs with
    | none => none
    | some [] => some entries
    | some ('[' :: '[' :: rest) =>
      match readKey? rest with
      | some (path, ']' :: ']' :: rest) => do
        let entries ← entries.defineTableItem path
        readStatements? fuel entries path (← endLine? rest)
      | _ => none
    | some ('[' :: rest) =>
      match readKey? rest with
      | some (path, ']' :: rest) => do
        let entries ← entries.defineTable path
        readStatements? fuel entries path (← endLine? rest)
      | _ => none
    | some cs =>
      match readKey? cs with
      | some (key, '=' :: rest) => do
        let (value, rest) ← readValue? (rest.length + 1) depthLimit (skipSpace rest)
        let entries ← entries.define current key value
        readStatements? fuel entries current (← endLine? rest)
      | _ => none

/-- The fields of the table that a document describes.  A byte order mark in front means nothing. -/
def read? (document : String) : Option (List (String × Toml)) :=
  let cs := document.toList
  let cs := if cs.head? == some '\uFEFF' then cs.drop 1 else cs
  (readStatements? (cs.length + 1) [] [] cs).map fieldsOf

end RpgLint.Toml
