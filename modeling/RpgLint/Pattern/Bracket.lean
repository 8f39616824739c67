import RpgLint.Pattern.Escape

/-!
# Classes in written patterns

A class in brackets is a set of characters, made of characters, ranges, named classes and further
classes, which may be joined by operators on sets.  How deep classes stand in one another is kept
beside the set.

## Main definitions

* `Bracket.Members` — what has been read of a class.
* `Bracket.read` — the class whose opening bracket has been read.
-/

namespace RpgLint.Bracket

/-- The members of a class so far. -/
structure Members where
  /-- Their set. -/
  set : CharSet := .none
  /-- How many there are. -/
  count : Nat := 0
  /-- How deep the deepest of them is. -/
  depth : Nat := 0

namespace Members

/-- The members with one more. -/
def add (members : Members) (set : CharSet) (depth : Nat) : Members :=
  ⟨members.set.union set, members.count + 1, max members.depth depth⟩

/-- How deep the members are together: several ones stand in a union. -/
def totalDepth (members : Members) : Nat :=
  if 1 < members.count then members.depth + 1 else members.depth

end Members

/-- A set with the depth of what describes it. -/
abbrev Operand := CharSet × Nat

/-- An operator between sets. -/
inductive Operator
  | inter
  | diff
  | symmDiff

/-- What an operator does. -/
def Operator.apply : Operator → CharSet → CharSet → CharSet
  | inter => .inter
  | diff => .diff
  | symmDiff => .symmDiff

/-- The members, joined with the operand in front of them if there is one. -/
def combine (flags : PatternFlags) (left : Option (Operator × Operand)) (members : Members) :
    Operand :=
  match left with
  | none => (members.set, members.totalDepth)
  | some (operator, left, depth) =>
    (operator.apply (flags.close left) (flags.close members.set), max depth members.totalDepth + 1)

/-- The ASCII class `[:name:]` whose opening bracket has been read, and whether it is negated. -/
def asciiClass? (cs : List Char) : Option (Bool × CharSet × List Char) :=
  match cs with
  | ':' :: rest =>
    let negated := rest.head? == some '^'
    let rest := if negated then rest.drop 1 else rest
    let name := rest.takeWhile (· != ':')
    match rest.drop name.length with
    | ':' :: ']' :: after => (CharSet.ofAsciiName? (String.ofList name)).map (negated, ·, after)
    | _ => none
  | _ => none

/-- The set closed under case as the modes want it, negated or not. -/
def complete (flags : PatternFlags) (negated : Bool) (set : CharSet) :
    Except PatternFault CharSet :=
  if negated then flags.negate (flags.close set) else .ok (flags.close set)

/-- One member of a class: a character, or a class named by an escape. -/
def member (flags : PatternFlags) (cs : List Char) : Except PatternFault (Atom × List Char) :=
  match cs with
  | [] => .error .unclosedClass
  | '\\' :: rest => Atom.escape flags rest
  | c :: rest => .ok (.literal c false, rest)

/-- The characters between two atoms. -/
def between (flags : PatternFlags) (first last : Atom) : Except PatternFault CharSet :=
  match first, last with
  | .literal a _, .literal b _ =>
    if !flags.unicode && 0x80 ≤ max a.toNat b.toNat then .error .unsupportedClass
    else if a.toNat ≤ b.toNat then .ok (.range a.toNat b.toNat)
    else .error .invalidRange
  | _, _ => .error .invalidRange

/-- A member or a range of a class. -/
def memberOrRange (flags : PatternFlags) (cs : List Char) :
    Except PatternFault (CharSet × List Char) := do
  let (first, rest) ← member flags cs
  let rest := flags.skip rest
  match rest with
  | [] => .error .unclosedClass
  | '-' :: after =>
    let next := flags.skip after
    -- a hyphen in front of the closing bracket is a member, and two hyphens are an operator
    if next.head? == some ']' || next.head? == some '-' then return (← first.toSet flags, rest)
    else
      let (last, rest) ← member flags next
      return (← between flags first last, rest)
  | _ => return (← first.toSet flags, rest)

/-- Where a class stands behind its opening bracket: negated or not, with the characters that are
members only here. -/
def opening (flags : PatternFlags) (cs : List Char) : Bool × Members × List Char :=
  let cs := flags.skip cs
  let negated := cs.head? == some '^'
  let cs := if negated then flags.skip (cs.drop 1) else cs
  let (hyphens, rest) := flags.takeWhile (· == '-') cs.length cs
  let members := hyphens.foldl (fun (members : Members) c => members.add (.single c) 0) {}
  match hyphens, rest with
  | [], ']' :: rest => (negated, members.add (.single ']') 0, flags.skip rest)
  | _, rest => (negated, members, rest)

/-- The rest of a class: `left` is the operand of the last operator and `members` what has been read
since.  Every step reads a character, so that the length of the text is fuel enough. -/
def readFrom (flags : PatternFlags) (negated : Bool) :
    (fuel : Nat) → Option (Operator × Operand) → Members →
    List Char → Except PatternFault (Operand × List Char)
  | 0, _, _, _ => .error .unclosedClass
  | fuel + 1, left, members, cs =>
    let continueWith := fun (operator : Operator) (rest : List Char) =>
      readFrom flags negated fuel (some (operator, combine flags left members)) {} rest
    match flags.skip cs with
    | [] => .error .unclosedClass
    | ']' :: rest =>
      let (set, depth) := combine flags left members
      (complete flags negated set).map fun set => ((set, depth + 1), rest)
    | '&' :: '&' :: rest => continueWith .inter rest
    | '-' :: '-' :: rest => continueWith .diff rest
    | '~' :: '~' :: rest => continueWith .symmDiff rest
    | '[' :: rest =>
      match asciiClass? rest with
      | some (negatedName, set, rest) =>
        match complete flags negatedName set with
        | .error fault => .error fault
        | .ok set => readFrom flags negated fuel left (members.add set 0) rest
      | none =>
        let (negatedInside, first, rest) := opening flags rest
        match readFrom flags negatedInside fuel none first rest with
        | .error fault => .error fault
        | .ok ((set, depth), rest) => readFrom flags negated fuel left (members.add set depth) rest
    | cs =>
      match memberOrRange flags cs with
      | .error fault => .error fault
      | .ok (set, rest) => readFrom flags negated fuel left (members.add set 0) rest

/-- The set of the class whose opening bracket has been read, with its depth, and the text after
it. -/
def read (flags : PatternFlags) (cs : List Char) : Except PatternFault (Operand × List Char) :=
  let (negated, first, rest) := opening flags cs
  readFrom flags negated (cs.length + 1) none first rest

end RpgLint.Bracket
