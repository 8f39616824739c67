import Mathlib.Data.List.Nodup
import RpgLint.Rule.Change

/-!
# Changes of rules

What a change does to the rules is said once: `RuleFile.Changes` lists the changes that are made,
and `RuleFile.Refuses` those that are refused.  From these lists follows what happens to the ids.
Every change keeps ids distinct except one: an import in place of all rules takes the rules of the
text as they are.

## Main definitions

* `RuleFile.Changes`, `RuleFile.Refuses` — the outcomes of a change.

## Main results

* `RuleFile.changes_of_change`, `RuleFile.refuses_of_change` — a change has one of these outcomes.
* `RuleFile.map_id_updateFirst`, `RuleFile.map_id_removeFirst`, `RuleFile.map_id_mergeRule` — ids
  after a change.
* `RuleFile.Changes.nodup_ids` — a change keeps ids distinct.
* `RuleFile.Changes.get?_eq_none_iff`, `RuleFile.Changes.enabledRules_iff` — what is left under an
  id after the first rule with it was removed or put out of force.
-/

namespace RpgLint.RuleFile

variable {file changed : RuleFile} {id : String} {answer : RuleAnswer}

/-! ### Finding a rule -/

theorem get?_eq_none_iff : file.get? id = none ↔ id ∉ file.ids := by
  rw [get?, ids, List.find?_eq_none, List.mem_map]
  constructor
  · rintro hnone ⟨rule, hmem, hid⟩
    exact hnone rule hmem (beq_iff_eq.mpr hid)
  · intro hnot rule hmem hid
    exact hnot ⟨rule, hmem, beq_iff_eq.mp hid⟩

theorem isSome_get?_iff : (file.get? id).isSome ↔ id ∈ file.ids := by
  rw [Option.isSome_iff_ne_none, Ne, get?_eq_none_iff, Classical.not_not]

theorem mem_ids_of_get? {rule : Rule} (h : file.get? id = some rule) : id ∈ file.ids :=
  isSome_get?_iff.mp (Option.isSome_of_eq_some h)

/-! ### Outcomes -/

/-- The changes that are made, with the changed rules and the answer. -/
inductive Changes (file : RuleFile) : RuleChange → RuleFile → RuleAnswer → Prop
  /-- A rule with a new id is appended. -/
  | added {rule : Rule} (hnew : rule.id ∉ file.ids) :
      Changes file (.add rule) { file with rules := file.rules ++ [rule] } .done
  /-- The first rule with the id is given new values. -/
  | updated {id : String} {patch : RulePatch} {rule : Rule} (hfound : file.get? id = some rule) :
      Changes file (.update id patch)
        { file with rules := updateFirst id patch.apply file.rules } .done
  /-- The first rule with the id is taken away. -/
  | removed {id : String} {rule : Rule} (hfound : file.get? id = some rule) :
      Changes file (.remove id) { file with rules := removeFirst id file.rules } (.removed rule)
  /-- The rules of a text are merged by id. -/
  | merged {text : String} {imported : RuleFile} (hread : read? text = some imported) :
      Changes file (.importRules text true) { file with rules := merge file.rules imported.rules }
        (.imported imported.rules.length)
  /-- The rules of a text are taken in place of all. -/
  | replaced {text : String} {imported : RuleFile} (hread : read? text = some imported) :
      Changes file (.importRules text false) imported (.imported imported.rules.length)
  /-- All rules are taken away. -/
  | reset : Changes file .reset {} .done

/-- The changes that are refused, with the reason. -/
inductive Refuses (file : RuleFile) : RuleChange → Failure → Prop
  /-- A rule has the id already. -/
  | known {rule : Rule} (hmem : rule.id ∈ file.ids) : Refuses file (.add rule) (.ruleExists rule.id)
  /-- No rule has the id that is to be given new values. -/
  | updateUnknown {id : String} {patch : RulePatch} (hnot : id ∉ file.ids) :
      Refuses file (.update id patch) (.ruleNotFound id)
  /-- No rule has the id that is to be taken away. -/
  | removeUnknown {id : String} (hnot : id ∉ file.ids) :
      Refuses file (.remove id) (.ruleNotFound id)
  /-- The text holds no rules. -/
  | unreadable {text : String} {merging : Bool} (hread : read? text = none) :
      Refuses file (.importRules text merging) .badImport

/-- **A change that is made is one of those listed.** -/
theorem changes_of_change {change : RuleChange} (h : file.change change = .ok (changed, answer)) :
    file.Changes change changed answer := by
  cases change with
  | add rule =>
    -- a known id is refused, so the id is new
    rw [RuleFile.change] at h
    split at h
    · cases h
    · next hnew =>
      cases h
      exact .added (mt isSome_get?_iff.mpr hnew)
  | update id patch =>
    -- only a rule that is found gets new values
    rw [RuleFile.change] at h
    split at h
    · next hsome =>
      obtain ⟨rule, hfound⟩ := Option.isSome_iff_exists.mp hsome
      cases h
      exact .updated hfound
    · cases h
  | remove id =>
    rw [RuleFile.change] at h
    split at h
    · next hfound =>
      cases h
      exact .removed hfound
    · cases h
  | importRules text merging =>
    -- a text that is read is merged or taken as it is
    rw [RuleFile.change] at h
    split at h
    · cases h
    · next hread =>
      cases h
      cases merging with
      | true => exact .merged hread
      | false => exact .replaced hread
  | reset =>
    cases h
    exact .reset

/-- **A change that is refused is one of those listed.** -/
theorem refuses_of_change {change : RuleChange} {failure : Failure}
    (h : file.change change = .error failure) : file.Refuses change failure := by
  cases change with
  | add rule =>
    -- each change has one ground for being refused, here a known id
    rw [RuleFile.change] at h
    split at h
    · next hsome =>
      cases h
      exact .known (isSome_get?_iff.mp hsome)
    · cases h
  | update id patch =>
    rw [RuleFile.change] at h
    split at h
    · cases h
    · next hnot =>
      cases h
      exact .updateUnknown (mt isSome_get?_iff.mpr hnot)
  | remove id =>
    rw [RuleFile.change] at h
    split at h
    · cases h
    · next hnone =>
      cases h
      exact .removeUnknown (get?_eq_none_iff.mp hnone)
  | importRules text merging =>
    rw [RuleFile.change] at h
    split at h
    · next hread =>
      cases h
      exact .unreadable hread
    · cases h
  | reset => cases h

/-! ### Ids after a change -/

/-- Changing a rule keeps its place, and its id if the change does. -/
theorem map_id_updateFirst {id : String} {f : Rule → Rule}
    (hf : ∀ rule, rule.id = id → (f rule).id = id) (rules : List Rule) :
    (updateFirst id f rules).map (·.id) = rules.map (·.id) := by
  induction rules with
  | nil => rfl
  | cons rule rules ih =>
    rw [updateFirst]
    by_cases hid : rule.id = id
    · rw [if_pos hid, List.map_cons, List.map_cons, hf rule hid, hid]
    · rw [if_neg hid, List.map_cons, List.map_cons, ih]

/-- Changing the first rule with an id gives the changed rule and all rules but that one. -/
theorem mem_updateFirst_iff {id : String} {f : Rule → Rule} {rules : List Rule} {first rule : Rule}
    (hfirst : rules.find? (·.id == id) = some first) :
    rule ∈ updateFirst id f rules ↔ rule = f first ∨ rule ∈ removeFirst id rules := by
  induction rules with
  | nil => cases hfirst
  | cons head rules ih =>
    rw [updateFirst, removeFirst]
    by_cases hid : head.id = id
    · -- the head is the first one: it is changed, and the rest stays
      rw [List.find?_cons_of_pos (by simpa using hid)] at hfirst
      rw [if_pos hid, if_pos hid, List.mem_cons, Option.some.inj hfirst]
    · -- the head stays, in front of what is changed behind it
      rw [List.find?_cons_of_neg (by simpa using hid)] at hfirst
      rw [if_neg hid, if_neg hid, List.mem_cons, List.mem_cons, ih hfirst, or_left_comm]

/-- Removing a rule removes the first occurrence of its id. -/
theorem map_id_removeFirst (id : String) (rules : List Rule) :
    (removeFirst id rules).map (·.id) = (rules.map (·.id)).erase id := by
  induction rules with
  | nil => rfl
  | cons rule rules ih =>
    rw [removeFirst, List.map_cons]
    by_cases hid : rule.id = id
    · rw [if_pos hid, hid, List.erase_cons_head]
    · rw [if_neg hid, List.erase_cons_tail (by simpa using hid), List.map_cons, ih]

/-- Merging a rule appends its id, unless it is there already. -/
theorem map_id_mergeRule (rules : List Rule) (rule : Rule) :
    (mergeRule rules rule).map (·.id) =
      if rule.id ∈ rules.map (·.id) then rules.map (·.id) else rules.map (·.id) ++ [rule.id] := by
  -- what the merge asks of the rules is a matter of their ids
  have hany : rules.any (·.id == rule.id) = true ↔ rule.id ∈ rules.map (·.id) := by
    rw [List.any_eq_true, List.mem_map]
    exact exists_congr fun other => and_congr_right fun _ => beq_iff_eq
  rw [mergeRule]
  by_cases hmem : rule.id ∈ rules.map (·.id)
  · rw [if_pos (hany.mpr hmem), if_pos hmem]
    exact map_id_updateFirst (fun _ _ => rfl) rules
  · rw [if_neg (mt hany.mp hmem), if_neg hmem, List.map_append]
    rfl

theorem nodup_map_id_mergeRule {rules : List Rule} (h : (rules.map (·.id)).Nodup) (rule : Rule) :
    ((mergeRule rules rule).map (·.id)).Nodup := by
  rw [map_id_mergeRule]
  by_cases hmem : rule.id ∈ rules.map (·.id)
  · rw [if_pos hmem]
    exact h
  · rw [if_neg hmem]
    exact List.nodup_append_comm.mp (List.nodup_cons.mpr ⟨hmem, h⟩)

/-- Merging keeps ids distinct, whatever is merged. -/
theorem nodup_map_id_merge {rules : List Rule} (h : (rules.map (·.id)).Nodup) (others : List Rule) :
    ((merge rules others).map (·.id)).Nodup := by
  induction others generalizing rules with
  | nil => exact h
  | cons other others ih => exact ih (nodup_map_id_mergeRule h other)

/-- **A change keeps ids distinct**, except that an import in place of all rules has to bring
distinct ids. -/
theorem Changes.nodup_ids {change : RuleChange} (hchange : file.Changes change changed answer)
    (h : file.ids.Nodup) (himport : ∀ text imported, change = .importRules text false →
      read? text = some imported → imported.ids.Nodup) : changed.ids.Nodup := by
  cases hchange with
  | added hnew =>
    rw [ids, List.map_append]
    exact List.nodup_append_comm.mp (List.nodup_cons.mpr ⟨hnew, h⟩)
  | @updated id patch rule hfound =>
    -- a patch has no new id
    have hids : (updateFirst id patch.apply file.rules).map (·.id) = file.ids :=
      map_id_updateFirst (f := patch.apply) (fun _ hid => hid) file.rules
    rw [ids, hids]
    exact h
  | @removed id rule hfound =>
    rw [ids, map_id_removeFirst]
    exact h.erase id
  | merged hread => exact nodup_map_id_merge h _
  | replaced hread => exact himport _ _ rfl hread
  | reset => exact List.nodup_nil

/-! ### Removing a rule, and putting one out of force -/

/-- After a rule was removed no rule has its id exactly if it was the only one. -/
theorem Changes.get?_eq_none_iff (hchange : file.Changes (.remove id) changed answer) :
    changed.get? id = none ↔ file.ids.count id = 1 := by
  cases hchange with
  | @removed _ rule hfound =>
    have hpos : 0 < file.ids.count id := List.count_pos_iff.mpr (mem_ids_of_get? hfound)
    rw [RuleFile.get?_eq_none_iff, ids, map_id_removeFirst, ← List.count_eq_zero,
      List.count_erase_self]
    -- one occurrence was taken away, and there was at least one
    show file.ids.count id - 1 = 0 ↔ _
    omega

/-- If ids are distinct, a rule that was removed is no longer found. -/
theorem Changes.get?_of_nodup (hchange : file.Changes (.remove id) changed answer)
    (h : file.ids.Nodup) : changed.get? id = none := by
  have hmem : id ∈ file.ids := by
    cases hchange with
    | removed hfound => exact mem_ids_of_get? hfound
  exact hchange.get?_eq_none_iff.mpr (List.count_eq_one_of_mem h hmem)

/-- After a rule was put out of force none with its id is in force exactly if no other one was. -/
theorem Changes.enabledRules_iff (hchange : file.Changes (.disable id) changed answer) :
    (∀ rule ∈ changed.enabledRules, rule.id ≠ id) ↔
      ∀ rule ∈ removeFirst id file.rules, rule.id = id → rule.enabled = false := by
  cases hchange with
  | @updated _ _ first hfirst =>
    constructor
    · -- another rule with the id would be kept, and would still be in force
      intro hnone rule hmem hid
      by_contra henabled
      have hkept : rule ∈ updateFirst id (RulePatch.apply { enabled := some false }) file.rules :=
        (mem_updateFirst_iff hfirst).mpr (.inr hmem)
      exact hnone rule (List.mem_filter.mpr ⟨hkept, by simpa using henabled⟩) hid
    · -- what is in force afterwards is not the changed rule
      intro hothers rule hmem hid
      obtain ⟨hmem, henabled⟩ := List.mem_filter.mp hmem
      rcases (mem_updateFirst_iff hfirst).mp hmem with rfl | hother
      · cases henabled
      · rw [hothers rule hother hid] at henabled
        cases henabled

/-- If ids are distinct, no other rule has the id of the first one. -/
theorem id_ne_of_mem_removeFirst (h : file.ids.Nodup) {rule : Rule}
    (hmem : rule ∈ removeFirst id file.rules) : rule.id ≠ id := by
  intro hid
  have hin : id ∈ (removeFirst id file.rules).map (·.id) := List.mem_map.mpr ⟨rule, hmem, hid⟩
  rw [map_id_removeFirst] at hin
  exact h.not_mem_erase hin

/-- If ids are distinct, a rule that was put out of force is out of force. -/
theorem Changes.enabledRules_of_nodup (hchange : file.Changes (.disable id) changed answer)
    (h : file.ids.Nodup) : ∀ rule ∈ changed.enabledRules, rule.id ≠ id := by
  refine hchange.enabledRules_iff.mpr fun rule hmem hid => ?_
  exact absurd hid (id_ne_of_mem_removeFirst h hmem)

end RpgLint.RuleFile
