/-!
# Specification types

The letter in column 6 says what a line specifies.  The seven fixed types have a mandatory order in
the main section of a member.  Three more kinds complete the classification: the `**FREE` sentinel,
a comment marked in column 6, and everything else.

## Main definitions

* `SpecType` — the ten kinds, `SpecType.all` in reporting order.
* `SpecType.ofLetter?` — the type of a letter in column 6.
* `SpecType.orderIndex?` — the place in the mandatory order.
-/

namespace RpgLint

/-- Kind of a source line. -/
inductive SpecType
  /-- `H`: control. -/
  | control
  /-- `F`: file description. -/
  | file
  /-- `D`: definition. -/
  | definition
  /-- `P`: procedure boundary. -/
  | procedure
  /-- `I`: input. -/
  | input
  /-- `C`: calculation. -/
  | calculation
  /-- `O`: output. -/
  | output
  /-- The `**FREE` sentinel. -/
  | free
  /-- An asterisk in column 6. -/
  | comment
  /-- Anything else. -/
  | unknown
  deriving DecidableEq, Repr, Inhabited

namespace SpecType

/-- Every kind, in reporting order. -/
def all : List SpecType :=
  [control, file, definition, procedure, input, calculation, output, free, comment, unknown]

/-- The fixed types in the order that the main section must keep. -/
def mandatoryOrder : List SpecType :=
  [control, file, definition, procedure, input, calculation, output]

/-- The type that a letter in column 6 stands for, in either case. -/
def ofLetter? (c : Char) : Option SpecType :=
  match c.toUpper with
  | 'H' => some control
  | 'F' => some file
  | 'D' => some definition
  | 'P' => some procedure
  | 'I' => some input
  | 'C' => some calculation
  | 'O' => some output
  | _ => none

/-- The place of a fixed type in the mandatory order. -/
def orderIndex? : SpecType → Option Nat
  | control => some 0
  | file => some 1
  | definition => some 2
  | procedure => some 3
  | input => some 4
  | calculation => some 5
  | output => some 6
  | free | comment | unknown => none

/-- One of the seven types that a letter in column 6 stands for. -/
def isFixed (spec : SpecType) : Bool := spec.orderIndex?.isSome

/-- Short name, as reports write it. -/
def code : SpecType → String
  | control => "H"
  | file => "F"
  | definition => "D"
  | procedure => "P"
  | input => "I"
  | calculation => "C"
  | output => "O"
  | free => "FREE"
  | comment => "COMMENT"
  | unknown => "UNKNOWN"

/-- The kind with the given short name. -/
def ofCode? (name : String) : Option SpecType := all.find? (·.code == name)

/-- Long name, as reports write it. -/
def description : SpecType → String
  | control => "Control"
  | file => "File"
  | definition => "Definition"
  | procedure => "Procedure"
  | input => "Input"
  | calculation => "Calculation"
  | output => "Output"
  | free => "Free-form"
  | comment => "Comment"
  | unknown => "Unknown"

end SpecType

end RpgLint
