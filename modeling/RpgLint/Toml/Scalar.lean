import RpgLint.Text.Letters
import RpgLint.Toml.Basic

/-!
# Numbers and times in TOML

## Main definitions

* `Toml.readInteger?`, `Toml.isFloat`, `Toml.isDatetime` — the written forms.
* `Toml.scalar?` — the value that a word without quotes writes.
-/

namespace RpgLint.Toml

/-- Digits in groups: an underscore stands between two digits only. -/
def grouped (isDigit : Char → Bool) : List Char → Bool
  | [] => false
  | [c] => isDigit c
  | c :: '_' :: rest => isDigit c && grouped isDigit rest
  | c :: rest => isDigit c && grouped isDigit rest

/-- The value of a digit in a base. -/
def baseDigit? (base : Nat) (c : Char) : Option Nat := (digitValue? c).filter (· < base)

/-- The number that digits in groups write. -/
def natural? (base : Nat) (cs : List Char) : Option Nat :=
  if grouped (fun c => (baseDigit? base c).isSome) cs then
    some ((cs.filter (· != '_')).foldl (fun n c => base * n + (baseDigit? base c).getD 0) 0)
  else none

/-- A decimal number without needless zeros in front. -/
def decimal? (cs : List Char) : Option Nat :=
  if cs.head? == some '0' && 1 < cs.length then none else natural? 10 cs

/-- The integer that a word writes, of any size. -/
def anyInteger? (cs : List Char) : Option Int :=
  match cs with
  | '0' :: 'x' :: digits => (natural? 16 digits).map Int.ofNat
  | '0' :: 'o' :: digits => (natural? 8 digits).map Int.ofNat
  | '0' :: 'b' :: digits => (natural? 2 digits).map Int.ofNat
  | '+' :: digits => (decimal? digits).map Int.ofNat
  | '-' :: digits => (decimal? digits).map fun n => -(n : Int)
  | digits => (decimal? digits).map Int.ofNat

/-- The integer that a word writes, if it fits into 128 bits, with a sign or without one. -/
def readInteger? (cs : List Char) : Option Int :=
  (anyInteger? cs).filter fun n =>
    decide (-0x80000000000000000000000000000000 ≤ n ∧ n < 0x100000000000000000000000000000000)

/-- A word without a sign in front. -/
def unsigned (cs : List Char) : List Char :=
  match cs with
  | '+' :: cs | '-' :: cs => cs
  | cs => cs

/-- The exponent that digits in groups write.  More than five digits are too many for any float, and
do not count. -/
def exponentValue (cs : List Char) : Nat :=
  (cs.filter (· != '_')).foldl
    (fun n c => if n < 0x10000 then 10 * n + (baseDigit? 10 c).getD 0 else n) 0

/-- The number `digits * 10 ^ exponent` is nearer to `2 ^ 1024` than to the greatest float, or just
as near. -/
def exceedsFloats (digits : List Char) (exponent : Int) : Bool :=
  let digits := digits.dropWhile (· == '0')
  let value := decimalValue (String.ofList digits)
  let bound := 0x3FFFFFFFFFFFFF * Nat.pow 2 970
  -- a number of so many places is far from the bound
  let places := (digits.length : Int) + exponent
  if value = 0 || places < 300 then false
  else if 320 < places then true
  else if 0 ≤ exponent then bound ≤ value * Nat.pow 10 exponent.toNat
  else bound * Nat.pow 10 (-exponent).toNat ≤ value

/-- The word writes a float, which is not too large. -/
def isFloat (cs : List Char) : Bool :=
  let body := unsigned cs
  if body == "inf".toList || body == "nan".toList then true
  else
    let isExponent := fun c => c == 'e' || c == 'E'
    let mantissa := body.takeWhile fun c => !isExponent c
    let exponent := (body.drop mantissa.length).drop 1
    let whole := mantissa.takeWhile (· != '.')
    let fraction := (mantissa.drop whole.length).drop 1
    let hasExponent := mantissa.length < body.length
    let hasFraction := whole.length < mantissa.length
    let isWellFormed :=
      (decimal? whole).isSome && (hasFraction || hasExponent) &&
        (!hasFraction || grouped isAsciiDigit fraction) &&
        (!hasExponent || grouped isAsciiDigit (unsigned exponent))
    let size : Int := exponentValue (unsigned exponent)
    let power := if exponent.head? == some '-' then -size else size
    let fraction := fraction.filter (· != '_')
    isWellFormed &&
      !exceedsFloats (whole.filter (· != '_') ++ fraction) (power - fraction.length)

/-- A number of so many digits at the start of a word, and the rest. -/
def fixedDigits? (count : Nat) (cs : List Char) : Option (Nat × List Char) :=
  let digits := cs.take count
  if digits.length == count && digits.all isAsciiDigit then
    some (decimalValue (String.ofList digits), cs.drop count)
  else none

/-- The rest of a word after the given character. -/
def after? (c : Char) : List Char → Option (List Char)
  | [] => none
  | d :: cs => if d = c then some cs else none

/-- Days of a month. -/
def daysInMonth (year month : Nat) : Nat :=
  if month == 2 then
    if year % 4 == 0 && (year % 100 != 0 || year % 400 == 0) then 29 else 28
  else if [4, 6, 9, 11].contains month then 30
  else 31

/-- The rest of a word after a date. -/
def dropDate? (cs : List Char) : Option (List Char) := do
  let (year, cs) ← fixedDigits? 4 cs
  let (month, cs) ← fixedDigits? 2 (← after? '-' cs)
  let (day, cs) ← fixedDigits? 2 (← after? '-' cs)
  if 1 ≤ month && month ≤ 12 && 1 ≤ day && day ≤ daysInMonth year month then return cs else none

/-- The rest of a word after a time of day. -/
def dropTime? (cs : List Char) : Option (List Char) := do
  let (hour, cs) ← fixedDigits? 2 cs
  let (minute, cs) ← fixedDigits? 2 (← after? ':' cs)
  let (second, cs) ← fixedDigits? 2 (← after? ':' cs)
  if 23 < hour || 59 < minute || 60 < second then none
  else match cs with
    | '.' :: rest =>
      let digits := rest.takeWhile isAsciiDigit
      if digits.isEmpty then none else return rest.drop digits.length
    | cs => return cs

/-- The word is empty or a distance from universal time. -/
def isOffset (cs : List Char) : Bool :=
  match cs with
  | [] | ['Z'] | ['z'] => true
  | sign :: cs =>
    (sign == '+' || sign == '-') && (do
      let (hour, cs) ← fixedDigits? 2 cs
      let (minute, cs) ← fixedDigits? 2 (← after? ':' cs)
      return hour ≤ 23 && minute ≤ 59 && cs.isEmpty : Option Bool).getD false

/-- The word writes a date, a time, or both. -/
def isDatetime (cs : List Char) : Bool :=
  match dropDate? cs with
  | some [] => true
  | some (separator :: cs) =>
    (separator == 'T' || separator == 't' || separator == ' ') &&
      ((dropTime? cs).map isOffset).getD false
  | none => dropTime? cs == some []

/-- The value that a word without quotes writes. -/
def scalar? (cs : List Char) : Option Toml :=
  if cs = "true".toList then some (boolean true)
  else if cs = "false".toList then some (boolean false)
  else match readInteger? cs with
    | some value => some (integer value)
    | none => if isFloat cs then some float else if isDatetime cs then some datetime else none

end RpgLint.Toml
