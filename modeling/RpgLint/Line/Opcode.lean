import RpgLint.Line.Basic

/-!
# Operation codes

An operation code may be followed by an extender in parentheses.  Some codes are kept for old
programs only; the list names them with the reason and the modern way.  Two entries stand for a
family of codes that ends in two letters for the condition.

## Main definitions

* `baseOpcode` — the code without its extender, in upper case.
* `DeprecatedOpcode.all` — the codes to avoid.
* `DeprecatedOpcode.find?` — the entry for a code.
-/

namespace RpgLint

/-- The operation code in front of an extender, without blanks around it and in upper case. -/
def baseOpcode (opcode : String) : String :=
  upper (trim (String.ofList (opcode.toList.takeWhile (· != '('))))

/-- How an entry of the list names codes. -/
inductive OpcodeFamily
  /-- One code. -/
  | exact (code : String)
  /-- A code with or without a condition of two characters. -/
  | conditional (stem : String)
  deriving DecidableEq, Repr

/-- The name of the family, where `XX` stands for any condition. -/
def OpcodeFamily.name : OpcodeFamily → String
  | exact code => code
  | conditional stem => stem ++ "XX"

/-- The code belongs to the family.  The condition is measured in bytes. -/
def OpcodeFamily.accepts : OpcodeFamily → String → Bool
  | exact code, opcode => opcode == code
  | conditional stem, opcode =>
    startsWith opcode stem &&
      (opcode.utf8ByteSize == stem.utf8ByteSize || opcode.utf8ByteSize == stem.utf8ByteSize + 2)

/-- An operation code to avoid. -/
structure DeprecatedOpcode where
  /-- The codes concerned. -/
  family : OpcodeFamily
  /-- Why to avoid them. -/
  reason : String
  /-- What to write instead. -/
  alternative : String
  deriving DecidableEq, Repr

namespace DeprecatedOpcode

/-- The operation codes to avoid. -/
def all : List DeprecatedOpcode :=
  [⟨.exact "GOTO", "it breaks structured control flow",
      "Use IF/ELSE, DO loops or SELECT/WHEN instead"⟩,
    ⟨.exact "TAG", "it only exists as a GOTO target",
      "Restructure the logic with structured operations"⟩,
    ⟨.conditional "CAB", "it is a legacy compare-and-branch", "Use IF"⟩,
    ⟨.conditional "CAS", "it is a legacy compare-and-call", "Use SELECT/WHEN with CALLP"⟩,
    ⟨.exact "COMP", "it compares through result indicators", "Use IF"⟩,
    ⟨.exact "LOKUP", "it is a legacy array search", "Use %LOOKUP or %SCAN"⟩,
    ⟨.exact "XFOOT", "it is a legacy array sum", "Use %XFOOT or a FOR loop"⟩,
    ⟨.exact "Z-ADD", "it is a legacy assignment", "Use EVAL"⟩,
    ⟨.exact "Z-SUB", "it is a legacy negated assignment", "Use EVAL"⟩,
    ⟨.exact "MOVE", "it converts implicitly and pads from the right",
      "Use EVAL with %CHAR, %DEC or %SUBST"⟩,
    ⟨.exact "MOVEL", "it converts implicitly and pads from the left",
      "Use EVAL with %CHAR, %DEC or %SUBST"⟩,
    ⟨.exact "MHHZO", "it is a legacy zone move", "Use EVAL with %BITAND/%BITOR"⟩,
    ⟨.exact "MHLZO", "it is a legacy zone move", "Use EVAL with %BITAND/%BITOR"⟩,
    ⟨.exact "MLHZO", "it is a legacy zone move", "Use EVAL with %BITAND/%BITOR"⟩,
    ⟨.exact "MLLZO", "it is a legacy zone move", "Use EVAL with %BITAND/%BITOR"⟩]

/-- The entry for an operation code as written in its field. -/
def find? (opcode : String) : Option DeprecatedOpcode :=
  let base := baseOpcode opcode
  all.find? (·.family.accepts base)

/-- The entry for the operation code of a line.  Comments have none. -/
def ofLine? (line : Line) : Option DeprecatedOpcode :=
  if line.isComment then none else line.opcode?.bind find?

end DeprecatedOpcode

end RpgLint
