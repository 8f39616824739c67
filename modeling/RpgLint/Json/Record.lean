import RpgLint.Json.Basic

/-!
# Records in JSON

A record is written as an object.  Fields that it does not know are skipped, and a field that it
knows may not be written twice.  An array of the fields in their order is accepted too; fields at
its end may be missing when they have a default.  A name from a fixed list is written as a string,
or as an object with that name and `null`.

## Main definitions

* `Json.slots?` — what is written for each field of a record.
* `Slot.required?`, `Slot.orDefault?`, `Slot.optional?` — the value of a field.
* `Json.word?` — a name from a fixed list.
-/

namespace RpgLint

namespace Json

/-- What is written for each of the named fields; `none` when a value stands for no record with
these fields. -/
def slots? (names : List String) : Json → Option (List (Option Json))
  | object fields =>
    if names.any fun name => 1 < fields.countP (·.1 == name) then none
    else some (names.map fun name => (fields.find? (·.1 == name)).map Prod.snd)
  | array items =>
    if names.length < items.length then none
    else some (items.map some ++ List.replicate (names.length - items.length) none)
  | _ => none

/-- A text. -/
def text? : Json → Option String
  | string text => some text
  | _ => none

/-- A truth value. -/
def bool? : Json → Option Bool
  | bool value => some value
  | _ => none

/-- A natural number that fits into 64 bits. -/
def nat64? : Json → Option Nat
  | number (.natural value) => if value < 0x10000000000000000 then some value else none
  | _ => none

/-- A list. -/
def list? : Json → Option (List Json)
  | array items => some items
  | _ => none

/-- A name that `ofName?` knows. -/
def word? {α : Type} (ofName? : String → Option α) : Json → Option α
  | string name => ofName? name
  | object [(name, null)] => ofName? name
  | _ => none

end Json

/-- What is written for a field: nothing, or a value. -/
abbrev Slot := Option Json

namespace Slot

/-- The value of a field that has to be written. -/
def required? {α : Type} (decode : Json → Option α) (slot : Slot) : Option α := slot.bind decode

/-- The value of a field that has a default. -/
def orDefault? {α : Type} (decode : Json → Option α) (default : α) : Slot → Option α
  | none => some default
  | some value => decode value

/-- The value of a field that may be missing or `null`. -/
def optional? {α : Type} (decode : Json → Option α) : Slot → Option (Option α)
  | none | some .null => some none
  | some value => (decode value).map some

end Slot

end RpgLint
