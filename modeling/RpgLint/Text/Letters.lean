/-!
# Letters and words of the fixed form

Specification letters, operation codes and keywords are ASCII words, written in either case.  They
are compared in upper case, and only the letters `a` to `z` change.

The names of levels, formats and categories are compared in Unicode lower case.  These names are
ASCII, so it is enough to know which characters have an ASCII letter in their lower-case form: the
capital letters, the Kelvin sign, and the capital I with a dot, which becomes an `i` and a combining
dot.

## Main definitions

* `upper` — upper case of the letters `a` to `z`.
* `lowerWord` — a lower case that agrees with the Unicode one wherever either is ASCII.
* `startsWith`, `endsWith`, `contains`, `occurrences` — parts of a text.
* `splitText` — the pieces of a text between separators.
* `Vocabulary` — the words by which a user names values, and what is said of other words.
-/

namespace RpgLint

/-- Upper case of the letters `a` to `z`; all other characters stay. -/
def upper (s : String) : String := String.ofList (s.toList.map Char.toUpper)

/-- Two characters are the same ASCII letter, or the same character. -/
def sameLetter (c d : Char) : Bool := c.toUpper == d.toUpper

/-- The digits `0` to `9`. -/
def isAsciiDigit (c : Char) : Bool := '0' ≤ c && c ≤ '9'

/-- The letters `A` to `Z` and `a` to `z`. -/
def isAsciiLetter (c : Char) : Bool := ('A' ≤ c && c ≤ 'Z') || ('a' ≤ c && c ≤ 'z')

/-- The letters `A` to `Z`. -/
def isAsciiUpper (c : Char) : Bool := 'A' ≤ c && c ≤ 'Z'

/-- The letters `a` to `z`. -/
def isAsciiLower (c : Char) : Bool := 'a' ≤ c && c ≤ 'z'

/-- Every character of the text is a digit `0` to `9`. -/
def allDigits (s : String) : Bool := s.toList.all isAsciiDigit

/-- The value of a digit in a base up to sixteen. -/
def digitValue? (c : Char) : Option Nat :=
  if '0' ≤ c && c ≤ '9' then some (c.toNat - 0x30)
  else if 'a' ≤ c && c ≤ 'f' then some (c.toNat - 0x57)
  else if 'A' ≤ c && c ≤ 'F' then some (c.toNat - 0x37)
  else none

/-- The number that a text of digits writes. -/
def decimalValue (s : String) : Nat :=
  s.toList.foldl (fun n c => 10 * n + (c.toNat - '0'.toNat)) 0

/-- The lower-case form of a character, where that form holds an ASCII letter. -/
def lowerWordChar (c : Char) : List Char :=
  if c = '\u0130' then ['i', '\u0307']
  else if c = '\u212a' then ['k']
  else [c.toLower]

/-- Lower case for the comparison with an ASCII word: the characters it leaves alone have no ASCII
letter in their lower-case form. -/
def lowerWord (s : String) : String := String.ofList (s.toList.flatMap lowerWordChar)

/-- The words by which a user names values. -/
structure Vocabulary (α : Type) where
  /-- Each word in lower case, with the value that it names. -/
  words : List (String × α)
  /-- What is said of a word that names nothing. -/
  unknown : String → String

namespace Vocabulary

variable {α : Type}

/-- The value that a word names, in any case. -/
def read (vocabulary : Vocabulary α) (word : String) : Except String α :=
  match vocabulary.words.lookup (lowerWord word) with
  | some value => .ok value
  | none => .error (vocabulary.unknown word)

/-- A word names nothing exactly if it is none of the words in any case, and then this is said. -/
theorem read_eq_error_iff {vocabulary : Vocabulary α} {word reason : String} :
    vocabulary.read word = .error reason ↔
      lowerWord word ∉ vocabulary.words.map Prod.fst ∧ vocabulary.unknown word = reason := by
  have hnone : vocabulary.words.lookup (lowerWord word) = none ↔
      lowerWord word ∉ vocabulary.words.map Prod.fst := by
    rw [List.lookup_eq_none_iff, List.mem_map, not_exists]
    refine forall_congr' fun entry => ?_
    rw [not_and, bne_iff_ne, ne_comm]
  rw [← hnone, read]
  cases vocabulary.words.lookup (lowerWord word) <;> simp

end Vocabulary

/-- The text begins with the word. -/
def startsWith (s word : String) : Bool := word.toList.isPrefixOf s.toList

/-- The text ends with the word. -/
def endsWith (s word : String) : Bool := word.toList.isSuffixOf s.toList

namespace Chars

/-- Cuts at each separator: one more piece than there are separators. -/
def split (separator : Char) (cs : List Char) : List (List Char) :=
  cs.foldr
    (fun c pieces =>
      if c = separator then [] :: pieces
      else match pieces with
        | [] => [[c]]
        | piece :: rest => (c :: piece) :: rest)
    [[]]

/-- The list `sub` stands somewhere in the list. -/
def hasInfix (sub : List Char) : List Char → Bool
  | [] => sub.isEmpty
  | c :: cs => sub.isPrefixOf (c :: cs) || hasInfix sub cs

theorem hasInfix_iff (sub cs : List Char) : hasInfix sub cs ↔ sub <:+: cs := by
  induction cs with
  | nil => simp [hasInfix]
  | cons c cs ih =>
    rw [hasInfix, Bool.or_eq_true, ih, List.isPrefixOf_iff_prefix, List.infix_cons_iff]

end Chars

/-- The word stands somewhere in the text. -/
def contains (s word : String) : Bool := Chars.hasInfix word.toList s.toList

/-- The pieces of a text between separators. -/
def splitText (separator : Char) (s : String) : List String :=
  (Chars.split separator s.toList).map String.ofList

/-- How often the character stands in the text. -/
def occurrences (c : Char) (s : String) : Nat := s.toList.count c

/-- The text followed by as many blanks as are missing to the width. -/
def padRight (width : Nat) (s : String) : String :=
  String.ofList (s.toList ++ List.replicate (width - s.toList.length) ' ')

/-- As many blanks as are missing to the width, followed by the text. -/
def padLeft (width : Nat) (s : String) : String :=
  String.ofList (List.replicate (width - s.toList.length) ' ' ++ s.toList)

/-- The lines of a text, each closed by a line feed. -/
def unlines (lines : List String) : String := String.join (lines.map (· ++ "\n"))

end RpgLint
