import RpgLint.Failure
import RpgLint.Rule.Codec

/-!
# Changes of the rules of a file

Each change either is refused, and then nothing happens, or gives the changed rules and an answer.

## Main definitions

* `RuleChange` — the changes.
* `RuleFile.merge` — imported rules replace those with the same id, and new ones are appended.
* `RuleFile.change` — the outcome of a change.
-/

namespace RpgLint

/-- A change of the rules of a file. -/
inductive RuleChange
  /-- Appends a rule. -/
  | add (rule : Rule)
  /-- Gives the rule with the id new values. -/
  | update (id : String) (patch : RulePatch)
  /-- Takes the rule with the id away. -/
  | remove (id : String)
  /-- Takes the rules of another file, in place of all or merged by id. -/
  | importRules (text : String) (merge : Bool)
  /-- Takes all rules away. -/
  | reset

namespace RuleChange

/-- Puts the rule with the id in force. -/
def enable (id : String) : RuleChange := update id { enabled := some true }

/-- Puts the rule with the id out of force. -/
def disable (id : String) : RuleChange := update id { enabled := some false }

end RuleChange

/-- What a change answers. -/
inductive RuleAnswer
  /-- Done. -/
  | done
  /-- The rule that was taken away. -/
  | removed (rule : Rule)
  /-- The number of imported rules. -/
  | imported (count : Nat)
  deriving DecidableEq, Repr

namespace RuleFile

/-- The rules with the first one that has the id changed. -/
def updateFirst (id : String) (f : Rule → Rule) : List Rule → List Rule
  | [] => []
  | rule :: rules => if rule.id = id then f rule :: rules else rule :: updateFirst id f rules

/-- The rules without the first one that has the id. -/
def removeFirst (id : String) : List Rule → List Rule
  | [] => []
  | rule :: rules => if rule.id = id then rules else rule :: removeFirst id rules

/-- The rules with one more: it replaces the first one with its id, or is appended. -/
def mergeRule (rules : List Rule) (rule : Rule) : List Rule :=
  if rules.any (·.id == rule.id) then updateFirst rule.id (fun _ => rule) rules
  else rules ++ [rule]

/-- The rules with others merged by id, in the order of the others. -/
def merge (rules others : List Rule) : List Rule := others.foldl mergeRule rules

/-- The outcome of a change: the changed rules with an answer, or the reason of the refusal. -/
def change (file : RuleFile) : RuleChange → Except Failure (RuleFile × RuleAnswer)
  | .add rule =>
    if (file.get? rule.id).isSome then .error (.ruleExists rule.id)
    else .ok ({ file with rules := file.rules ++ [rule] }, .done)
  | .update id patch =>
    if (file.get? id).isSome then
      .ok ({ file with rules := updateFirst id patch.apply file.rules }, .done)
    else .error (.ruleNotFound id)
  | .remove id =>
    match file.get? id with
    | some rule => .ok ({ file with rules := removeFirst id file.rules }, .removed rule)
    | none => .error (.ruleNotFound id)
  | .importRules text merging =>
    match read? text with
    | none => .error .badImport
    | some imported =>
      -- merging keeps the version of the file, replacing takes that of the text
      .ok (if merging then { file with rules := merge file.rules imported.rules } else imported,
        .imported imported.rules.length)
  | .reset => .ok ({}, .done)

end RuleFile

end RpgLint
