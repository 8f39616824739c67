/-!
# TOML values

## Main definitions

* `Toml` — the values of a document; of floats and times only the sort is kept.
* `Toml.Entries` — tables in the making, where it matters how a table came to be.
* `Toml.Entries.define`, `defineTable`, `defineTableItem` — what the three sorts of statements do.
-/

namespace RpgLint

/-- A TOML value. -/
inductive Toml
  | string (text : String)
  | integer (value : Int)
  | float
  | boolean (value : Bool)
  | datetime
  | array (items : List Toml)
  | table (fields : List (String × Toml))

namespace Toml

/-- How a table came to be. -/
inductive Origin
  /-- On the way to a table with a header. -/
  | implied
  /-- By a header of its own. -/
  | header
  /-- On the way to a dotted key. -/
  | dotted
  deriving DecidableEq, Repr

/-- What a key stands for while a document is read. -/
inductive Entry
  /-- A value, which is complete. -/
  | value (value : Toml)
  /-- A table. -/
  | table (origin : Origin) (entries : List (String × Entry))
  /-- A list of tables, the last of which is open.  It is kept in front. -/
  | tables (last : List (String × Entry)) (earlier : List (List (String × Entry)))

/-- Keys with what they stand for. -/
abbrev Entries := List (String × Entry)

mutual

/-- The value that an entry stands for. -/
def Entry.toValue : Entry → Toml
  | .value value => value
  | .table _ entries => Toml.table (fieldsOf entries)
  | .tables last earlier => array (earlierOf earlier ++ [Toml.table (fieldsOf last)])

/-- The values of entries. -/
def fieldsOf : List (String × Entry) → List (String × Toml)
  | [] => []
  | (key, entry) :: entries => (key, entry.toValue) :: fieldsOf entries

/-- The values of the earlier tables of a list, in order. -/
def earlierOf : List (List (String × Entry)) → List Toml
  | [] => []
  | entries :: earlier => earlierOf earlier ++ [Toml.table (fieldsOf entries)]

end

namespace Entries

/-- What the key stands for. -/
def get? (entries : Entries) (key : String) : Option Entry :=
  (entries.find? (·.1 == key)).map Prod.snd

/-- The entries with another meaning for the key; a new key comes last. -/
def put (entries : Entries) (key : String) (entry : Entry) : Entries :=
  if entries.any (·.1 == key) then
    entries.map fun (name, old) => if name == key then (name, entry) else (name, old)
  else entries ++ [(key, entry)]

/-- Changes the table at the end of a path of headers.  Tables on the way are made where they are
missing, and in a list of tables the way leads through the last one. -/
def atHeader (entries : Entries) (change : Entries → Option Entries) : List String → Option Entries
  | [] => change entries
  | key :: path =>
    match entries.get? key with
    | none => (atHeader [] change path).map fun inner => entries.put key (.table .implied inner)
    | some (.table origin inner) =>
      (atHeader inner change path).map fun inner => entries.put key (.table origin inner)
    | some (.tables last earlier) =>
      (atHeader last change path).map fun last => entries.put key (.tables last earlier)
    | some (.value _) => none

/-- Adds a value under a dotted key.  A key may not lead into a table that has a header, nor end in
a table that no dotted key made (`inDotted` tells whether one did, or no way has been made yet). -/
def addDotted (entries : Entries) (value : Toml) (inDotted : Bool) : List String → Option Entries
  | [] => none
  | [key] =>
    if inDotted && (entries.get? key).isNone then some (entries.put key (.value value)) else none
  | key :: path =>
    match entries.get? key with
    | none =>
      (addDotted [] value true path).map fun inner => entries.put key (.table .dotted inner)
    | some (.table .header _) => none
    | some (.table origin inner) =>
      (addDotted inner value (origin == .dotted) path).map fun inner =>
        entries.put key (.table origin inner)
    -- the way leads through the last table of the list, which has a header: only tables below it
    -- are open
    | some (.tables last earlier) =>
      (addDotted last value false path).map fun last => entries.put key (.tables last earlier)
    | some (.value _) => none

/-- What a line `key = value` does, in the table that the last header opened. -/
def define (entries : Entries) (table key : List String) (value : Toml) : Option Entries :=
  entries.atHeader (fun inner => inner.addDotted value true key) table

/-- What a header `[path]` does: a table is opened that has no header yet. -/
def defineTable (entries : Entries) (path : List String) : Option Entries :=
  match path.getLast? with
  | none => none
  | some key =>
    entries.atHeader (fun inner =>
      match Entries.get? inner key with
      | none => some (Entries.put inner key (.table .header []))
      -- a table that was only passed through gets its header, and keeps what is in it
      | some (.table .implied fields) => some (Entries.put inner key (.table .header fields))
      | some _ => none) path.dropLast

/-- What a header `[[path]]` does: a list of tables gets one more. -/
def defineTableItem (entries : Entries) (path : List String) : Option Entries :=
  match path.getLast? with
  | none => none
  | some key =>
    entries.atHeader (fun inner =>
      match Entries.get? inner key with
      | none => some (Entries.put inner key (.tables [] []))
      | some (.tables last earlier) => some (Entries.put inner key (.tables [] (last :: earlier)))
      | some _ => none) path.dropLast

end Entries

end Toml

end RpgLint
