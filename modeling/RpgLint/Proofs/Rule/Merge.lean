import RpgLint.Proofs.Rule.Change
import RpgLint.Rule.Store

/-!
# Merging rules by id

Rules are merged one after the other, and each looks for its place among the rules as they are by
then.  So a rule can replace one that was merged before it.  Seen from the ids the outcome is
simple: the last rule with an id is found under it, no rule leaves its place, and the rules with new
ids follow in the order in which these ids come first.

## Main results

* `RuleFile.find?_merge` — the rule that is found under an id after a merge.
* `RuleFile.map_id_merge` — the ids after a merge.
* `RuleFile.merge_merge` — merging the same rules again changes nothing.
* `RuleStore.mergeImport_last_wins` — a text that is merged into a store.
-/

namespace RpgLint

namespace RuleFile

variable {rules others : List Rule} {rule other : Rule}

/-! ### Merging a rule -/

theorem mergeRule_nil (rule : Rule) : mergeRule [] rule = [rule] := rfl

theorem mergeRule_cons (head : Rule) (rules : List Rule) (rule : Rule) :
    mergeRule (head :: rules) rule =
      if head.id = rule.id then rule :: rules else head :: mergeRule rules rule := by
  rw [mergeRule, mergeRule, List.any_cons, updateFirst]
  by_cases hid : head.id = rule.id
  · rw [if_pos (by rw [beq_iff_eq.mpr hid, Bool.true_or]), if_pos hid, if_pos hid]
  · -- whether the id comes later is asked of the rest alone
    rw [beq_eq_false_iff_ne.mpr hid, Bool.false_or, if_neg hid, if_neg hid]
    split <;> rfl

theorem find?_id_cons (head : Rule) (rules : List Rule) (id : String) :
    (head :: rules).find? (·.id == id) =
      if head.id = id then some head else rules.find? (·.id == id) := by
  rw [List.find?_cons]
  by_cases hid : head.id = id
  · rw [beq_iff_eq.mpr hid, if_pos hid]
  · rw [beq_eq_false_iff_ne.mpr hid, if_neg hid]

/-- The merged rule is found under its id, and under the other ids what was found before. -/
theorem find?_mergeRule (rules : List Rule) (rule : Rule) (id : String) :
    (mergeRule rules rule).find? (·.id == id) =
      if rule.id = id then some rule else rules.find? (·.id == id) := by
  induction rules with
  | nil => rw [mergeRule_nil, find?_id_cons]
  | cons head rules ih =>
    rw [mergeRule_cons, find?_id_cons]
    by_cases hhead : head.id = rule.id
    · -- the head is replaced, and nothing behind it matters for its id
      rw [if_pos hhead, find?_id_cons, hhead]
      split <;> rfl
    · -- the head is kept; it is found itself, or what is merged behind it
      rw [if_neg hhead, find?_id_cons, ih]
      by_cases hid : head.id = id
      · rw [if_pos hid, if_neg (fun hrule => hhead (hid.trans hrule.symm)), if_pos hid]
      · rw [if_neg hid, if_neg hid]

/-- A rule that is found under its id is in its place already. -/
theorem mergeRule_of_find? (h : rules.find? (·.id == rule.id) = some rule) :
    mergeRule rules rule = rules := by
  induction rules with
  | nil => cases h
  | cons head rules ih =>
    rw [find?_id_cons] at h
    rw [mergeRule_cons]
    by_cases hid : head.id = rule.id
    · rw [if_pos hid] at h
      rw [if_pos hid, Option.some.inj h]
    · rw [if_neg hid] at h
      rw [if_neg hid, ih h]

/-- The second of two rules with the same id replaces the first. -/
theorem mergeRule_mergeRule_of_eq (rules : List Rule) (hid : other.id = rule.id) :
    mergeRule (mergeRule rules rule) other = mergeRule rules other := by
  induction rules with
  | nil => rw [mergeRule_nil, mergeRule_cons, if_pos hid.symm, mergeRule_nil]
  | cons head rules ih =>
    rw [mergeRule_cons, mergeRule_cons, hid]
    by_cases hhead : head.id = rule.id
    · rw [if_pos hhead, if_pos hhead, mergeRule_cons, if_pos hid.symm]
    · rw [if_neg hhead, if_neg hhead, mergeRule_cons, if_neg (hid ▸ hhead), ih]

/-- Rules with different ids are merged in either order, unless both are new. -/
theorem mergeRule_right_comm (hid : other.id ≠ rule.id) (hmem : rule.id ∈ rules.map (·.id)) :
    mergeRule (mergeRule rules rule) other = mergeRule (mergeRule rules other) rule := by
  induction rules with
  | nil => cases hmem
  | cons head rules ih =>
    rw [mergeRule_cons, mergeRule_cons]
    -- the head is one of the two that are replaced, or is kept by both
    by_cases hrule : head.id = rule.id
    · rw [if_pos hrule, if_neg (hrule.trans_ne hid.symm), mergeRule_cons, mergeRule_cons,
        if_neg hid.symm, if_pos hrule]
    · by_cases hother : head.id = other.id
      · rw [if_neg hrule, if_pos hother, mergeRule_cons, mergeRule_cons, if_pos hother, if_neg hid]
      · have hlater : rule.id ∈ rules.map (·.id) :=
          (List.mem_cons.mp hmem).resolve_left (Ne.symm hrule)
        rw [if_neg hrule, if_neg hother, mergeRule_cons, mergeRule_cons, if_neg hother,
          if_neg hrule, ih hlater]

/-! ### Merging several rules -/

theorem merge_cons (rules : List Rule) (other : Rule) (others : List Rule) :
    merge rules (other :: others) = merge (mergeRule rules other) others := rfl

theorem findRev?_cons (id : String) :
    (other :: others).findRev? (·.id == id) =
      (others.findRev? (·.id == id)).or (if other.id = id then some other else none) := by
  rw [List.findRev?_eq_find?_reverse, List.findRev?_eq_find?_reverse, List.reverse_cons,
    List.find?_append, find?_id_cons, List.find?_nil]

theorem isSome_findRev?_iff {id : String} :
    (others.findRev? (·.id == id)).isSome ↔ id ∈ others.map (·.id) := by
  rw [List.findRev?_eq_find?_reverse, List.find?_isSome, List.mem_map]
  simp only [List.mem_reverse, beq_iff_eq]

theorem exists_findRev?_of_mem {id : String} (h : id ∈ others.map (·.id)) :
    ∃ last, others.findRev? (·.id == id) = some last :=
  Option.isSome_iff_exists.mp (isSome_findRev?_iff.mpr h)

/-- **The last rule with an id is found** after a merge, and what was found before where there is
none. -/
theorem find?_merge (rules others : List Rule) (id : String) :
    (merge rules others).find? (·.id == id) =
      (others.findRev? (·.id == id)).or (rules.find? (·.id == id)) := by
  induction others generalizing rules with
  | nil => rfl
  | cons other others ih =>
    rw [merge_cons, ih, find?_mergeRule, findRev?_cons, Option.or_assoc]
    split <;> rfl

/-- **The ids after a merge**: those that were there, and then the new ones in the order in which
they come first. -/
theorem map_id_merge (rules others : List Rule) :
    (merge rules others).map (·.id) =
      rules.map (·.id) ++ ((others.map (·.id)).filter (· ∉ rules.map (·.id))).eraseDups := by
  induction others generalizing rules with
  | nil => exact (List.append_nil _).symm
  | cons other others ih =>
    rw [merge_cons, ih, map_id_mergeRule, List.map_cons]
    by_cases hmem : other.id ∈ rules.map (·.id)
    · -- an id that was there is never new
      rw [if_pos hmem, List.filter_cons_of_neg (by simpa using hmem)]
    · -- a new id comes once, so that its later occurrences are left out
      have hnew : (others.map (·.id)).filter (· ∉ rules.map (·.id) ++ [other.id]) =
          ((others.map (·.id)).filter (· ∉ rules.map (·.id))).filter (!· == other.id) := by
        rw [List.filter_filter]
        exact List.filter_congr fun id _ => by simp [beq_eq_decide, Bool.and_comm]
      rw [if_neg hmem, List.filter_cons_of_pos (by simpa using hmem), List.eraseDups_cons, hnew,
        List.append_assoc]
      rfl

/-! ### Merging again -/

/-- A rule whose id is there makes no difference if another with its id is merged later. -/
theorem merge_mergeRule (hmem : rule.id ∈ rules.map (·.id)) (hlater : rule.id ∈ others.map (·.id)) :
    merge (mergeRule rules rule) others = merge rules others := by
  induction others generalizing rules with
  | nil => cases hlater
  | cons other others ih =>
    rw [merge_cons, merge_cons]
    by_cases hid : other.id = rule.id
    · -- the later rule with the id comes next, and replaces the first
      rw [mergeRule_mergeRule_of_eq rules hid]
    · -- the next rule has another id: it is merged first, and the id is still there
      have hkept : rule.id ∈ (mergeRule rules other).map (·.id) := by
        rw [map_id_mergeRule]
        split
        · exact hmem
        · exact List.mem_append_left _ hmem
      rw [mergeRule_right_comm hid hmem,
        ih hkept ((List.mem_cons.mp hlater).resolve_left (Ne.symm hid))]

/-- Rules among which the last ones of others are found are not changed by merging these. -/
theorem merge_eq_self
    (h : ∀ id ∈ others.map (·.id), rules.find? (·.id == id) = others.findRev? (·.id == id)) :
    merge rules others = rules := by
  induction others with
  | nil => rfl
  | cons other others ih =>
    have hrest : ∀ id ∈ others.map (·.id), rules.find? (·.id == id) =
        others.findRev? (·.id == id) := by
      intro id hid
      obtain ⟨last, hlast⟩ := exists_findRev?_of_mem hid
      rw [h id (List.mem_cons_of_mem _ hid), findRev?_cons, hlast, Option.some_or]
    have hfound := h other.id List.mem_cons_self
    rw [merge_cons]
    -- a rule whose id comes again leaves no trace, and one whose id does not is in its place
    by_cases hlater : other.id ∈ others.map (·.id)
    · have hmem : other.id ∈ rules.map (·.id) := by
        obtain ⟨last, hlast⟩ := exists_findRev?_of_mem hlater
        rw [← hrest other.id hlater] at hlast
        exact List.mem_map.mpr
          ⟨last, List.mem_of_find?_eq_some hlast, by simpa using List.find?_some hlast⟩
      rw [merge_mergeRule hmem hlater, ih hrest]
    · have hnone : others.findRev? (·.id == other.id) = none :=
        Option.not_isSome_iff_eq_none.mp (mt isSome_findRev?_iff.mp hlater)
      rw [findRev?_cons, hnone, if_pos rfl, Option.none_or] at hfound
      rw [mergeRule_of_find? hfound, ih hrest]

/-- **Merging the same rules again** changes nothing. -/
theorem merge_merge (rules others : List Rule) :
    merge (merge rules others) others = merge rules others := by
  refine merge_eq_self fun id hid => ?_
  obtain ⟨last, hlast⟩ := exists_findRev?_of_mem hid
  rw [find?_merge, hlast, Option.some_or]

end RuleFile

namespace RuleStore

/-- **A text that is merged into a store** that can be written, with ids repeated in the store or in
the text or not.  The answer is the number of rules in the text, and the version stays.  Under an id
the last rule of the text is found, and the old one where the text has none; the old ids stay in
order, followed by the new ones of the text, each once and in the order in which they come first.
Merging the text again changes nothing. -/
theorem mergeImport_last_wins (store : RuleStore) {text : String} {imported : RuleFile}
    (hread : RuleFile.read? text = some imported) :
    ∃ after, store.perform none (.importRules text true) =
      (after, .ok (.imported imported.rules.length)) ∧
      after.memory.version = store.memory.version ∧
      (∀ id, after.memory.get? id =
        (imported.rules.findRev? (·.id == id)).or (store.memory.get? id)) ∧
      after.memory.ids = store.memory.ids ++
        (imported.ids.filter (· ∉ store.memory.ids)).eraseDups ∧
      (store.memory.ids.Nodup → after.memory.ids.Nodup) ∧
      after.perform none (.importRules text true) =
        (after, .ok (.imported imported.rules.length)) := by
  -- the text is read the same way each time, so the second merge is computed alike
  have hperform : ∀ store : RuleStore, store.perform none (.importRules text true) =
      (let memory : RuleFile
      := { store.memory with rules := RuleFile.merge store.memory.rules imported.rules }
       ({ memory := memory, disk := some memory.exportText },
         .ok (.imported imported.rules.length))) := by
    intro store
    rw [perform, RuleFile.change, hread]
    rfl
  refine ⟨_, hperform store, rfl, fun id => RuleFile.find?_merge _ _ id,
    RuleFile.map_id_merge _ _, ?_, ?_⟩
  · exact fun h => RuleFile.nodup_map_id_merge h _
  · rw [hperform]
    simp only [RuleFile.merge_merge]

/-- A text that has an id twice is merged into rules that have it twice as well: its last rule
replaces the first of the old ones. -/
theorem mergeImport_last_wins_repeated :
    let rule := fun id message : String => "\x7b\"id\":\"" ++ id ++
      "\",\"name\":\"A\",\"category\":\"naming\",\"severity\":\"info\",\"message\":\"" ++ message ++
      "\"\x7d"
    let old : Rule :=
      { id := "A", name := "A", category := .naming, severity := .info, message := "old" }
    let store : RuleStore := { memory := { rules := [old, old] }, disk := none }
    let text :=
      "\x7b\"rules\":[" ++ rule "B" "b" ++ "," ++ rule "A" "first" ++ "," ++
        rule "A" "last" ++ "]\x7d"
    ∃ imported, RuleFile.read? text = some imported ∧ ∃ after,
      store.perform none (.importRules text true) = (after, .ok (.imported 3)) ∧
      after.memory.get? "A" = some { old with message := "last" } ∧
      after.memory.ids = ["A", "A", "B"] ∧
      after.perform none (.importRules text true) = (after, .ok (.imported 3)) := by
  intro rule old store text
  let imported : RuleFile :=
    { rules := [{ old with id := "B", message := "b" }, { old with message := "first" },
    { old with message := "last" }] }
  have hread : RuleFile.read? text = some imported := by decide +kernel
  obtain ⟨after, hafter, -, hget, hids, -, hagain⟩ := mergeImport_last_wins store hread
  refine ⟨imported, hread, after, hafter, ?_, ?_, hagain⟩
  · rw [hget]
    decide
  · rw [hids]
    decide

end RuleStore

end RpgLint
