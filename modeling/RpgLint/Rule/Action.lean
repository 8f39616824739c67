import RpgLint.Rule.Compiled
import RpgLint.Rule.Store
import RpgLint.Text.Letters

/-!
# Actions on rules

What a user can do with the rules of a file, and the text that is shown for it.  A new rule is
accepted only when its pattern can be read, even if the rule is not in force, so that it can be put
in force later.

## Main definitions

* `RuleAction` — the actions.
* `ruleListing` — the rules as a table.
* `RuleAction.plan` — what an action shows, or the change it makes with the words that confirm it.
* `RuleStore.act` — an action on a store.
-/

namespace RpgLint

/-- What a user can do with the rules of a file. -/
inductive RuleAction
  /-- Shows a table. -/
  | list
  /-- Shows one rule. -/
  | display (id : String)
  /-- Appends a rule. -/
  | add (rule : Rule)
  /-- Takes a rule away. -/
  | remove (id : String)
  /-- Puts a rule in force. -/
  | enable (id : String)
  /-- Puts a rule out of force. -/
  | disable (id : String)
  /-- Shows the text of the file. -/
  | exportFile
  /-- Takes the rules that a text describes. -/
  | importText (text : String) (merge : Bool)
  /-- Takes all rules away. -/
  | reset

/-- The lines of the table for one rule. -/
def ruleRow (rule : Rule) : String :=
  let status := if rule.enabled then "enabled" else "disabled"
  unlines
    ((String.intercalate " "
        [padRight 24 rule.id, padRight 8 status, padRight 7 rule.severity.name,
          padRight 13 rule.category.name, rule.name]) ::
      (rule.pattern.map fun pattern => "    pattern: " ++ pattern).toList)

/-- The rules as a table, with their number below. -/
def ruleListing (rules : List Rule) : String :=
  if rules.isEmpty then "No custom rules defined.\n"
  else
    let enabled := rules.countP (·.enabled)
    String.join (rules.map ruleRow) ++ s!"\n{rules.length} rules ({enabled} enabled)\n"

/-- The failure of a rule's pattern, whether the rule is in force or not. -/
def Rule.patternFailure? (engine : PatternEngine) (rule : Rule) : Option Failure :=
  match rule.compile? engine with
  | some (.error failure) => some failure
  | _ => none

/-- What an action comes down to. -/
inductive RulePlan
  /-- Shows a text. -/
  | text (text : String)
  /-- Makes a change; the words confirm it. -/
  | change (change : RuleChange) (confirm : RuleAnswer → String)

/-- The text of the rules as it is shown, or written where it is asked for. -/
def RuleFile.exportedText (file : RuleFile) : String := file.exportText ++ "\n"

/-- The words that confirm that the text was written to a file. -/
def RuleFile.exportNotice (file : RuleFile) (target : String) : String :=
  s!"Exported {file.rules.length} rules to {target}\n"

/-- What an action on the rules of the file at `path` comes down to. -/
def RuleAction.plan (engine : PatternEngine) (path : String) (file : RuleFile) :
    RuleAction → Except Failure RulePlan
  | .list => .ok (.text (ruleListing file.rules))
  | .display id =>
    match file.get? id with
    | some rule => .ok (.text (rule.toJson.pretty ++ "\n"))
    | none => .error (.ruleNotFound id)
  | .add rule =>
    match rule.patternFailure? engine with
    | some failure => .error failure
    | none => .ok (.change (.add rule) fun _ => s!"Added rule '{rule.id}' to {path}\n")
  | .remove id => .ok (.change (.remove id) fun _ => s!"Removed rule '{id}'\n")
  | .enable id => .ok (.change (.enable id) fun _ => s!"Enabled rule '{id}'\n")
  | .disable id => .ok (.change (.disable id) fun _ => s!"Disabled rule '{id}'\n")
  | .exportFile => .ok (.text file.exportedText)
  | .importText text merge =>
    let verb := if merge then "Merged" else "Imported"
    .ok (.change (.importRules text merge) fun answer =>
      match answer with
      | .imported count => s!"{verb} {count} rules into {path}\n"
      | _ => "")
  | .reset => .ok (.change .reset fun _ => "Removed all custom rules\n")

/-- The store after an action, and the text to show. -/
def RuleStore.act (engine : PatternEngine) (path : String) (fault : Option Fault)
    (store : RuleStore) (action : RuleAction) : RuleStore × Except Failure String :=
  match action.plan engine path store.memory with
  | .error failure => (store, .error failure)
  | .ok (.text text) => (store, .ok text)
  | .ok (.change change confirm) =>
    let (store, result) := store.perform fault change
    (store, result.map confirm)

end RpgLint
