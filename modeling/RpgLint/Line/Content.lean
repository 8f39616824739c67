import RpgLint.Text.Characters
import RpgLint.Text.Letters

/-!
# What stands on a line

A numbered indicator is written `*IN` with two digits, in either case.  String literals stand
between single quotes.  What counts statements and parentheses looks at the text outside of
literals; a literal that is never closed is kept.

## Main definitions

* `IndicatorUse` — one place where an indicator is written.
* `indicatorUses` — all places in a text, from left to right.
* `stripLiterals` — a text without its closed literals.
-/

namespace RpgLint

/-! ### Indicators -/

/-- A place where a numbered indicator is written. -/
structure IndicatorUse where
  /-- The indicator as written. -/
  text : String
  /-- Column of the asterisk. -/
  column : Nat
  deriving DecidableEq, Repr

namespace Chars

/-- The five characters of an indicator at the start of the text. -/
def indicator? : List Char → Option (List Char)
  | star :: i :: n :: tens :: units :: _ =>
    if star = '*' && i.toUpper == 'I' && n.toUpper == 'N' && isDecimalDigit tens &&
        isDecimalDigit units then
      some [star, i, n, tens, units]
    else none
  | _ => none

/-- The indicators of a text whose first character stands in the given column.  Two indicators
cannot overlap, since each begins with an asterisk and holds only one. -/
def indicatorUses (column : Nat) : List Char → List IndicatorUse
  | [] => []
  | c :: cs =>
    match indicator? (c :: cs) with
    | some text => ⟨String.ofList text, column⟩ :: indicatorUses (column + 1) cs
    | none => indicatorUses (column + 1) cs

end Chars

/-- The numbered indicators of a text, from left to right. -/
def indicatorUses (text : String) : List IndicatorUse := Chars.indicatorUses 1 text.toList

/-! ### Literals -/

namespace Chars

/-- The text after a closing quote, if there is one. -/
def afterQuote? : List Char → Option (List Char)
  | [] => none
  | c :: cs => if c = '\'' then some cs else afterQuote? cs

/-- The text after a closing quote is shorter. -/
theorem length_of_afterQuote? {cs rest : List Char} (h : afterQuote? cs = some rest) :
    rest.length < cs.length := by
  induction cs with
  | nil => simp [afterQuote?] at h
  | cons c cs ih =>
    by_cases hc : c = '\''
    · simp [afterQuote?, hc] at h
      simp [h]
    · simp [afterQuote?, hc] at h
      have := ih h
      simp only [List.length_cons]
      omega

/-- The characters outside of closed literals. -/
def stripLiterals (cs : List Char) : List Char :=
  match cs with
  | [] => []
  | c :: cs =>
    if c = '\'' then
      match _h : afterQuote? cs with
      | some rest => stripLiterals rest
      | none => c :: cs
    else c :: stripLiterals cs
  termination_by cs.length
  decreasing_by
    · have := length_of_afterQuote? _h
      simp only [List.length_cons]
      omega
    · simp

end Chars

/-- The text outside of closed literals. -/
def stripLiterals (text : String) : String := String.ofList (Chars.stripLiterals text.toList)

end RpgLint
