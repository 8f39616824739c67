/-!
# JSON values

Values keep the order of the fields of an object, and keep a field that is written twice, so that a
reader of records can tell.

## Main definitions

* `Json.Number` — natural numbers, and all others as written.
* `Json` — the values.
-/

namespace RpgLint

/-- A number. -/
inductive Json.Number
  /-- A natural number, written without sign, fraction or exponent. -/
  | natural (value : Nat)
  /-- Any other number, as written. -/
  | written (text : String)
  deriving DecidableEq, Repr

/-- A JSON value. -/
inductive Json
  | null
  | bool (value : Bool)
  | number (value : Json.Number)
  | string (text : String)
  | array (items : List Json)
  | object (fields : List (String × Json))
  /-- A well-formed value that no text can hold, since half of a surrogate pair stands alone in a
  string or in the name of a field.  It may stand where values are skipped. -/
  | unreadable

namespace Json

/-- A natural number. -/
def nat (value : Nat) : Json := number (.natural value)

/-- An object without the fields that have no value. -/
def record (fields : List (String × Option Json)) : Json :=
  object (fields.filterMap fun (name, value) => value.map (name, ·))

/-- A text, or `null`. -/
def ofText? : Option String → Json
  | some text => string text
  | none => null

/-- The last field of an object with the given name. -/
def field? (value : Json) (name : String) : Option Json :=
  match value with
  | object fields => (fields.reverse.find? (·.1 == name)).map Prod.snd
  | _ => none

end Json

end RpgLint
