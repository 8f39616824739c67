import RpgLint.Rule.Change

/-!
# Rules kept in a file

A store holds rules in memory and writes the whole file after every change.  When writing fails, the
change stays in memory and is written with the next one.

## Main definitions

* `RuleStore` — rules in memory beside the content of the file.
* `contentAfterWrite` — what is assumed of the file system.
* `RuleStore.perform` — a change, with the file writable or not.
* `RuleStore.opened`, `RuleStore.openOn` — the rules that a file's content describes, and the store
  on it.
* `RuleStore.serve` — the answer to a request, which is a change or only reads.
-/

namespace RpgLint

/-- Rules in memory beside the content of their file. -/
structure RuleStore where
  /-- The rules in memory. -/
  memory : RuleFile
  /-- Content of the file, if there is one. -/
  disk : Option String
  deriving DecidableEq, Repr

/-- The content of a file after a text was to be written to it.  Assumed of the file system: a write
that fails leaves the file as it was, and one that succeeds leaves the text and nothing else. -/
def contentAfterWrite (content : Option String) (text : String) : Option Fault → Option String
  | some _ => content
  | none => some text

@[simp] theorem contentAfterWrite_fault (content : Option String) (text : String) (fault : Fault) :
    contentAfterWrite content text (some fault) = content := rfl

@[simp] theorem contentAfterWrite_none (content : Option String) (text : String) :
    contentAfterWrite content text none = some text := rfl

namespace RuleStore

/-- The rules that the content of a file describes; without a file there are none. -/
def opened (path : String) : Option String → Except Failure RuleFile
  | none => .ok {}
  | some text =>
    match RuleFile.read? text with
    | some file => .ok file
    | none => .error (.badRuleFile path)

/-- The store on a file with the content. -/
def openOn (path : String) (content : Option String) : Except Failure RuleStore :=
  (opened path content).map fun memory => { memory := memory, disk := content }

/-- The store with its rules written to the file; with a fault they cannot be written. -/
def save (fault : Option Fault) (store : RuleStore) : RuleStore × Except Failure Unit :=
  ({ store with disk := contentAfterWrite store.disk store.memory.exportText fault },
    match fault with
    | some fault => .error (.io fault)
    | none => .ok ())

/-- The store after a change and the change's answer.  A refused change alters nothing, and a fault
leaves the file as it was. -/
def perform (fault : Option Fault) (store : RuleStore) (change : RuleChange) :
    RuleStore × Except Failure RuleAnswer :=
  match store.memory.change change with
  | .error failure => (store, .error failure)
  | .ok (memory, answer) =>
    let (store, result) := save fault { store with memory := memory }
    (store, result.map fun _ => answer)

end RuleStore

/-- What can be asked of a store. -/
inductive StoreRequest
  /-- Changes the rules. -/
  | change (change : RuleChange)
  /-- Reads the rule with the id. -/
  | get (id : String)
  /-- Reads all rules. -/
  | rules
  /-- Reads the text of the rules. -/
  | exportText

/-- What a store replies. -/
inductive StoreReply
  /-- A change was made. -/
  | answer (answer : RuleAnswer)
  /-- The rule with the id, if there is one. -/
  | found (rule : Option Rule)
  /-- All rules. -/
  | listed (rules : List Rule)
  /-- The text of the rules. -/
  | text (text : String)
  deriving DecidableEq, Repr

/-- The store after a request and its reply.  Only a change writes the file. -/
def RuleStore.serve (fault : Option Fault) (store : RuleStore) :
    StoreRequest → RuleStore × Except Failure StoreReply
  | .change change =>
    let (store, result) := store.perform fault change
    (store, result.map .answer)
  | .get id => (store, .ok (.found (store.memory.get? id)))
  | .rules => (store, .ok (.listed store.memory.rules))
  | .exportText => (store, .ok (.text store.memory.exportText))

end RpgLint
