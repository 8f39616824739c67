import RpgLint.Check.Issue
import RpgLint.Text.DoubleByte

/-!
# Line length

A line may have so many characters, or so many bytes when double-byte characters are taken into
account.

## Main definitions

* `LengthLimit` — the limit and what is measured.
* `checkLength` — the findings `LINE_LENGTH`.
-/

namespace RpgLint

/-- How long a line may be. -/
structure LengthLimit where
  /-- The greatest admitted length. -/
  max : Nat := 100
  /-- Length is measured in bytes. -/
  inBytes : Bool := false
  deriving DecidableEq, Repr

/-- The length that the limit is about. -/
def LengthLimit.measure (limit : LengthLimit) (raw : String) : Nat :=
  if limit.inBytes then byteLength raw else charLength raw

/-- The finding on a line that is too long. -/
def lengthIssue? (limit : LengthLimit) (line : Line) : Option Issue :=
  let length := limit.measure line.raw
  let max := limit.max
  if length ≤ max then none
  else
    let detail :=
      if limit.inBytes && hasDoubleByte line.raw then
        let double := doubleByteCount line.raw
        let shift := shiftCharacters line.raw
        s!" ({double} DBCS characters, {shift} shift characters)"
      else ""
    let start := slice line.raw 0 50
    some
      { severity := .error
        category := .structural
        line := line.number
        rule := "LINE_LENGTH"
        message := s!"Line length exceeds limit ({length} > {max}){detail}"
        column := some (max + 1)
        description := some s!"A line must be at most {max} columns."
        suggestion := some "Split the line or use continuation lines"
        snippet := some (start ++ "...") }

/-- The findings on lines that are too long. -/
def checkLength (limit : LengthLimit) (lines : List Line) : List Issue :=
  lines.filterMap (lengthIssue? limit)

end RpgLint
