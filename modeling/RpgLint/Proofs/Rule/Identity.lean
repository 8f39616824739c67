import RpgLint.Proofs.Rule.Change
import RpgLint.Proofs.Rule.History

/-!
# Ids of rules

Rules are found by id, and the changes reach the first rule with the id only.  So an id names a rule
as long as no id is stored twice, which a history that begins without a file keeps up unless rules
are imported in place of all others from a text that repeats an id.

## Main definitions

* `ImportsDistinct` — the texts that are imported in place of all rules have distinct ids.
* `StoreEvent.Settles` — a rule that was removed or put out of force is so under its id.

## Main results

* `RuleStore.nodup_ids_iff_importsDistinct` — when ids are distinct in every state of a history, and
  what then holds after removing a rule and after putting one out of force.
-/

namespace RpgLint

/-- The texts that are imported in place of all rules have distinct ids. -/
def ImportsDistinct (requests : List (StoreRequest × Option Fault)) : Prop :=
  ∀ text imported fault, (StoreRequest.change (.importRules text false), fault) ∈ requests →
    RuleFile.read? text = some imported → imported.ids.Nodup

theorem RuleFile.nodup_ids_remember {memory : RuleFile} (h : memory.ids.Nodup)
    {request : StoreRequest}
    (himport : ∀ text imported, request = .change (.importRules text false) →
      read? text = some imported → imported.ids.Nodup) :
    (memory.remember request).ids.Nodup := by
  cases request with
  | change change =>
    rw [remember]
    -- a refused change leaves the ids as they were
    cases hchange : memory.change change with
    | error failure => exact h
    | ok result =>
      refine (changes_of_change hchange).nodup_ids h ?_
      intro text imported hrequest
      exact himport text imported (congrArg StoreRequest.change hrequest)
  | get id => exact h
  | rules => exact h
  | exportText => exact h

namespace RuleStore

/-- Distinct ids stay distinct over a history. -/
theorem nodup_ids_served {store : RuleStore} (h : store.memory.ids.Nodup)
    {requests : List (StoreRequest × Option Fault)} (himports : ImportsDistinct requests) :
    (store.served requests).memory.ids.Nodup := by
  induction requests generalizing store with
  | nil => exact h
  | cons first requests ih =>
    obtain ⟨request, fault⟩ := first
    refine ih ?_ fun text imported fault hmem =>
      himports text imported fault (List.mem_cons_of_mem _ hmem)
    rw [(store.serves_serve request fault).memory_eq]
    refine RuleFile.nodup_ids_remember h ?_
    rintro text imported rfl
    exact himports text imported fault List.mem_cons_self

/-- An import in place of all rules stores the ids of its text, written or not. -/
theorem ids_served_import (store : RuleStore) (earlier : List (StoreRequest × Option Fault))
    (fault : Option Fault) {text : String} {imported : RuleFile}
    (hread : RuleFile.read? text = some imported) :
    (store.served (earlier ++ [(.change (.importRules text false), fault)])).memory.ids =
      imported.ids := by
  rw [served_memory, List.foldl_append, List.foldl_cons, List.foldl_nil, RuleFile.remember,
    RuleFile.change, hread]
  rfl

/-- Ids are distinct in every state of a history exactly if imports in place of all rules bring
distinct ids. -/
theorem nodup_ids_iff_of_nodup {store : RuleStore} (h : store.memory.ids.Nodup)
    (requests : List (StoreRequest × Option Fault)) :
    (∀ earlier, earlier <+: requests → (store.served earlier).memory.ids.Nodup) ↔
      ImportsDistinct requests := by
  constructor
  · -- right after such an import the ids are those of its text
    intro hstates text imported fault hmem hread
    obtain ⟨earlier, later, rfl⟩ := List.append_of_mem hmem
    rw [← ids_served_import store earlier fault hread]
    exact hstates _ ⟨later, by rw [List.append_assoc]; rfl⟩
  · -- no other request can bring an id for the second time
    rintro himports earlier ⟨later, rfl⟩
    refine nodup_ids_served h fun text imported fault hmem => ?_
    exact himports text imported fault (List.mem_append_left later hmem)

end RuleStore

namespace StoreEvent

/-- What is asked of a rule that was removed or put out of force: its id finds nothing any more. -/
structure Settles (event : StoreEvent) : Prop where
  /-- After a rule was removed no rule has its id. -/
  removed : ∀ id reply, event.request = .change (.remove id) → event.reply = .ok reply →
    event.after.memory.get? id = none
  /-- After a rule was put out of force none with its id is in force. -/
  disabled : ∀ id reply, event.request = .change (.disable id) → event.reply = .ok reply →
    ∀ rule ∈ event.after.memory.enabledRules, rule.id ≠ id

/-- If ids are distinct, the first rule with an id is all there is to remove or to put out of
force. -/
theorem Served.settles {event : StoreEvent} (h : event.Served)
    (hnodup : event.before.memory.ids.Nodup) : event.Settles where
  removed := by
    intro id reply hrequest hreply
    obtain ⟨answer, hchange, -⟩ := h.made_of_ok hrequest hreply
    exact (RuleFile.changes_of_change hchange).get?_of_nodup hnodup
  disabled := by
    intro id reply hrequest hreply
    obtain ⟨answer, hchange, -⟩ := h.made_of_ok hrequest hreply
    exact (RuleFile.changes_of_change hchange).enabledRules_of_nodup hnodup

end StoreEvent

namespace RuleStore

/-- **When ids identify rules.**  A store that is opened on a missing file has distinct ids in every
state exactly if each import in place of all rules brings distinct ids, and then a rule that was
removed is no longer found and one that was put out of force is out of force.  In any case the
former needs that no other rule had the id, and the latter that no other rule with the id was in
force. -/
theorem nodup_ids_iff_importsDistinct (path : String)
    (requests : List (StoreRequest × Option Fault)) :
    ∃ start, openOn path none = .ok start ∧
      ((∀ earlier, earlier <+: requests → (start.served earlier).memory.ids.Nodup) ↔
        ImportsDistinct requests) ∧
      (ImportsDistinct requests → ∀ event ∈ start.history requests, event.Settles) ∧
      ∀ event ∈ start.history requests, ∀ id reply, event.reply = .ok reply →
        (event.request = .change (.remove id) →
          (event.after.memory.get? id = none ↔ event.before.memory.ids.count id = 1)) ∧
        (event.request = .change (.disable id) →
          ((∀ rule ∈ event.after.memory.enabledRules, rule.id ≠ id) ↔
            ∀ rule ∈ RuleFile.removeFirst id event.before.memory.rules, rule.id = id →
              rule.enabled = false)) := by
  have hnodup : (RuleStore.mk {} none).memory.ids.Nodup := List.nodup_nil
  refine ⟨{ memory := {}, disk := none }, rfl, ?_, ?_, ?_⟩
  · exact nodup_ids_iff_of_nodup hnodup requests
  · -- the store in front of an event is a state of the history
    intro himports event hmem
    obtain ⟨earlier, request, fault, later, rfl, rfl⟩ := exists_of_mem_history hmem
    have hstates := (nodup_ids_iff_of_nodup hnodup _).mpr himports
    exact (served_event _ request fault).settles (hstates earlier (List.prefix_append _ _))
  · -- without distinct ids: how often the id was there decides
    intro event hmem id reply hreply
    have hserved := served_of_mem_history hmem
    constructor
    · intro hrequest
      obtain ⟨answer, hchange, -⟩ := hserved.made_of_ok hrequest hreply
      exact (RuleFile.changes_of_change hchange).get?_eq_none_iff
    · intro hrequest
      obtain ⟨answer, hchange, -⟩ := hserved.made_of_ok hrequest hreply
      exact (RuleFile.changes_of_change hchange).enabledRules_iff

/-- A text that has an id twice: both rules are stored, removing the id leaves one, and so does
putting it out of force. -/
theorem ids_repeat_after_import :
    let rule := "\x7b\"id\":\"A\",\"name\":\"A\",\"category\":\"naming\",\"severity\":\"info\"," ++
      "\"message\":\"a\"\x7d"
    let replace : StoreRequest × Option Fault :=
      (.change (.importRules ("\x7b\"rules\":[" ++ rule ++ "," ++ rule ++ "]\x7d") false), none)
    let start : RuleStore := { memory := {}, disk := none }
    openOn "rules.json" none = .ok start ∧
      ¬ (start.served [replace]).memory.ids.Nodup ∧
      (start.served [replace, (.change (.remove "A"), none)]).memory.get? "A" ≠ none ∧
      ∃ rule ∈ (start.served [replace, (.change (.disable "A"), none)]).memory.enabledRules,
        rule.id = "A" := by
  decide +kernel

end RuleStore

end RpgLint
