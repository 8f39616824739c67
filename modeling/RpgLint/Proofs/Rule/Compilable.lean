import Mathlib.Data.List.Forall2
import RpgLint.Pattern.Reader
import RpgLint.Proofs.Rule.Change
import RpgLint.Proofs.Rule.Codec
import RpgLint.Proofs.Rule.History
import RpgLint.Rule.Action

/-!
# Rules that can always be run

Only the rules in force are compiled, so that a pattern that cannot be read would be noticed no
sooner than its rule is put in force.  That this never happens is due to the check of a new rule,
which reads the pattern even if the rule is added out of force.  All other actions keep the patterns
that there are, or take rules away.

The engine that reads patterns is any engine, and it may read them in another way each time.  Of
these engines it is assumed that they are alike: whether a pattern can be read depends on its text
only.

## Main definitions

* `PatternEngine.Reads`, `PatternEngine.Alike` — the patterns that an engine can read, and engines
  that can read the same ones.
* `Rule.Compiles`, `RuleFile.Compiles`, `RuleChange.Compiles` — patterns that can be read: of a
  rule, of all rules, and those that a change brings.
* `Rule.CompilesTo` — a rule with its own pattern, ready for reading lines.
* `RuleCall`, `RuleTurn`, `RuleStore.called` — what is asked of a store, by whom it is read, and the
  store after it was asked one thing after another.
* `RuleStore.Compilable` — what holds of every store on the way.

## Main results

* `compileRules_failures_eq_nil_iff`, `forall₂_compileRules` — what compiling a list of rules gives.
* `RuleFile.Changes.compiles` — a change brings no other patterns than its own.
* `RuleStore.act_add_of_not_compiles`, `RuleStore.act_add_of_known`, `RuleStore.act_add_of_new` —
  what adding does.
* `RuleStore.compilable_called` — the rules of a store can always be run.
-/

namespace RpgLint

/-! ### Patterns that can be read -/

namespace PatternEngine

/-- The engine can read the pattern. -/
def Reads (engine : PatternEngine) (text : String) : Prop :=
  ∃ occursIn, engine.read text = .ok occursIn

/-- Both engines can read the same patterns.  For one engine at two times this says that whether a
pattern can be read depends on its text only. -/
def Alike (engine other : PatternEngine) : Prop := ∀ text, engine.Reads text ↔ other.Reads text

theorem Alike.rfl {engine : PatternEngine} : engine.Alike engine := fun _ => Iff.rfl

end PatternEngine

/-- The pattern of the rule, if it has one, can be read, whether the rule is in force or not. -/
def Rule.Compiles (engine : PatternEngine) (rule : Rule) : Prop :=
  ∀ text ∈ rule.pattern, engine.Reads text

/-- The compiled rule is the rule with its own pattern. -/
structure Rule.CompilesTo (engine : PatternEngine) (rule : Rule) (compiled : CompiledRule) :
    Prop where
  /-- It is the rule. -/
  rule_eq : compiled.rule = rule
  /-- It looks for the rule's pattern. -/
  occursIn_eq : ∃ text, rule.pattern = some text ∧ engine.read text = .ok compiled.occursIn

namespace Rule

variable {engine : PatternEngine} {rule : Rule}

theorem compiles_congr {other : PatternEngine} (halike : other.Alike engine) :
    rule.Compiles other ↔ rule.Compiles engine :=
  forall₂_congr fun text _ => halike text

theorem exists_compile?_of_compiles (h : rule.Compiles engine) (hpattern : rule.pattern.isSome) :
    ∃ compiled, rule.compile? engine = some (.ok compiled) ∧ rule.CompilesTo engine compiled := by
  obtain ⟨text, htext⟩ := Option.isSome_iff_exists.mp hpattern
  obtain ⟨occursIn, hread⟩ := h text htext
  refine ⟨⟨rule, occursIn⟩, ?_, rfl, text, htext, hread⟩
  rw [compile?, htext, Option.map_some, hread]

theorem exists_compile?_of_not_compiles (h : ¬ rule.Compiles engine) :
    ∃ reason, rule.compile? engine = some (.error (.badPattern rule.id reason)) := by
  simp only [Compiles, not_forall] at h
  obtain ⟨text, htext, hnot⟩ := h
  -- the reason is whatever the engine says of the pattern
  cases hread : engine.read text with
  | ok occursIn => exact absurd ⟨occursIn, hread⟩ hnot
  | error fault =>
    refine ⟨fault, ?_⟩
    rw [compile?, Option.mem_def.mp htext, Option.map_some, hread]

theorem compile?_of_pattern (h : rule.pattern = none) : rule.compile? engine = none := by
  rw [compile?, h, Option.map_none]

theorem patternFailure?_of_compiles (h : rule.Compiles engine) :
    rule.patternFailure? engine = none := by
  rw [patternFailure?]
  cases hpattern : rule.pattern with
  | none => rw [compile?_of_pattern hpattern]
  | some text =>
    obtain ⟨compiled, hcompile, -⟩ := exists_compile?_of_compiles h (hpattern ▸ rfl)
    rw [hcompile]

theorem exists_patternFailure? (h : ¬ rule.Compiles engine) :
    ∃ reason, rule.patternFailure? engine = some (.badPattern rule.id reason) := by
  obtain ⟨reason, hcompile⟩ := exists_compile?_of_not_compiles h
  exact ⟨reason, by rw [patternFailure?, hcompile]⟩

/-- A rule that is accepted when it is added has a pattern that can be read. -/
theorem compiles_of_patternFailure? (h : rule.patternFailure? engine = none) :
    rule.Compiles engine := by
  by_contra hnot
  obtain ⟨reason, hfailure⟩ := exists_patternFailure? hnot
  rw [h] at hfailure
  cases hfailure

end Rule

/-! ### Compiling a list of rules -/

section

variable {engine : PatternEngine}

theorem compileRules_cons_of_disabled {rule : Rule} (h : rule.enabled = false) (rules : List Rule) :
    compileRules engine (rule :: rules) = compileRules engine rules := by
  simp [compileRules, compileResults, h]

theorem compileRules_cons_of_pattern {rule : Rule} (h : rule.pattern = none) (rules : List Rule) :
    compileRules engine (rule :: rules) = compileRules engine rules := by
  cases henabled : rule.enabled with
  | false => exact compileRules_cons_of_disabled henabled rules
  | true => simp [compileRules, compileResults, henabled, Rule.compile?_of_pattern h]

theorem compileRules_cons_ok {rule : Rule} {compiled : CompiledRule}
    (henabled : rule.enabled = true) (h : rule.compile? engine = some (.ok compiled))
    (rules : List Rule) :
    compileRules engine (rule :: rules) =
      (compiled :: (compileRules engine rules).1, (compileRules engine rules).2) := by
  simp [compileRules, compileResults, henabled, h]

theorem compileRules_cons_error {rule : Rule} {failure : Failure} (henabled : rule.enabled = true)
    (h : rule.compile? engine = some (.error failure)) (rules : List Rule) :
    compileRules engine (rule :: rules) =
      ((compileRules engine rules).1, failure :: (compileRules engine rules).2) := by
  simp [compileRules, compileResults, henabled, h]

/-- **No failure is reported** exactly if the patterns of the rules in force can be read. -/
theorem compileRules_failures_eq_nil_iff {rules : List Rule} :
    (compileRules engine rules).2 = [] ↔
      ∀ rule ∈ rules, rule.enabled = true → rule.Compiles engine := by
  induction rules with
  | nil => exact iff_of_true rfl (List.forall_mem_nil _)
  | cons rule rules ih =>
    rw [List.forall_mem_cons]
    by_cases henabled : rule.enabled = true
    · by_cases hcompiles : rule.Compiles engine
      · -- the rule can run, or has nothing to run: it adds no failure
        have hsame : (compileRules engine (rule :: rules)).2 = (compileRules engine rules).2 := by
          cases hpattern : rule.pattern with
          | none => rw [compileRules_cons_of_pattern hpattern]
          | some text =>
            obtain ⟨compiled, hcompile, -⟩ :=
              Rule.exists_compile?_of_compiles hcompiles (hpattern ▸ rfl)
            rw [compileRules_cons_ok henabled hcompile]
        rw [hsame, ih, and_iff_right fun _ => hcompiles]
      · -- its pattern is the first one that is reported
        obtain ⟨reason, hcompile⟩ := Rule.exists_compile?_of_not_compiles hcompiles
        rw [compileRules_cons_error henabled hcompile]
        exact iff_of_false (List.cons_ne_nil _ _) fun h => hcompiles (h.1 henabled)
    · -- a rule out of force is not even read
      rw [compileRules_cons_of_disabled (Bool.eq_false_iff.mpr henabled), ih,
        and_iff_right fun h => absurd h henabled]

/-- **What is compiled**: the rules in force that have a pattern, in their order. -/
theorem forall₂_compileRules {rules : List Rule}
    (h : ∀ rule ∈ rules, rule.enabled = true → rule.Compiles engine) :
    List.Forall₂ (Rule.CompilesTo engine)
      (rules.filter fun rule => rule.enabled && rule.pattern.isSome)
        (compileRules engine rules).1 := by
  induction rules with
  | nil => exact .nil
  | cons rule rules ih =>
    obtain ⟨hrule, hrules⟩ := List.forall_mem_cons.mp h
    cases henabled : rule.enabled with
    | false =>
      rw [compileRules_cons_of_disabled henabled, List.filter_cons_of_neg (by simp [henabled])]
      exact ih hrules
    | true =>
      -- a rule in force is compiled only if it has a pattern to look for
      cases hpattern : rule.pattern with
      | none =>
        rw [compileRules_cons_of_pattern hpattern, List.filter_cons_of_neg (by simp [hpattern])]
        exact ih hrules
      | some text =>
        obtain ⟨compiled, hcompile, hto⟩ :=
          Rule.exists_compile?_of_compiles (hrule henabled) (hpattern ▸ rfl)
        rw [compileRules_cons_ok henabled hcompile,
          List.filter_cons_of_pos (by simp [henabled, hpattern])]
        exact .cons hto (ih hrules)

end

/-! ### Changes -/

/-- All patterns can be read, those of the rules out of force too. -/
def RuleFile.Compiles (engine : PatternEngine) (file : RuleFile) : Prop :=
  ∀ rule ∈ file.rules, rule.Compiles engine

/-- The patterns that a change brings can be read. -/
def RuleChange.Compiles (engine : PatternEngine) : RuleChange → Prop
  | .add rule => rule.Compiles engine
  | .update _ patch => ∀ text ∈ patch.pattern, engine.Reads text
  | .importRules text _ =>
    ∀ imported, RuleFile.read? text = some imported → imported.Compiles engine
  | .remove _ | .reset => True

theorem Rule.Compiles.apply {engine : PatternEngine} {rule : Rule} (h : rule.Compiles engine)
    {patch : RulePatch} (hpatch : ∀ text ∈ patch.pattern, engine.Reads text) :
    (patch.apply rule).Compiles engine := by
  intro text htext
  have hor : (patch.pattern <|> rule.pattern) = some text := htext
  cases hpattern : patch.pattern with
  | none =>
    rw [hpattern] at hor
    exact h text hor
  | some other =>
    rw [hpattern] at hor
    obtain rfl : other = text := Option.some.inj hor
    exact hpatch other hpattern

namespace RuleFile

variable {rules : List Rule} {P : Rule → Prop}

theorem forall_mem_updateFirst {id : String} {f : Rule → Rule} (hf : ∀ rule, P rule → P (f rule))
    (h : ∀ rule ∈ rules, P rule) : ∀ rule ∈ updateFirst id f rules, P rule := by
  induction rules with
  | nil => exact h
  | cons head rules ih =>
    obtain ⟨hhead, hrules⟩ := List.forall_mem_cons.mp h
    rw [updateFirst]
    split
    · exact List.forall_mem_cons.mpr ⟨hf head hhead, hrules⟩
    · exact List.forall_mem_cons.mpr ⟨hhead, ih hrules⟩

theorem removeFirst_sublist (id : String) (rules : List Rule) :
    (removeFirst id rules).Sublist rules := by
  induction rules with
  | nil => exact .refl _
  | cons head rules ih =>
    rw [removeFirst]
    split
    · exact List.sublist_cons_self head rules
    · exact ih.cons_cons head

theorem forall_mem_mergeRule {other : Rule} (hother : P other) (h : ∀ rule ∈ rules, P rule) :
    ∀ rule ∈ mergeRule rules other, P rule := by
  rw [mergeRule]
  split
  · exact forall_mem_updateFirst (fun _ _ => hother) h
  · exact List.forall_mem_append.mpr ⟨h, List.forall_mem_singleton.mpr hother⟩

theorem forall_mem_merge {others : List Rule} (hothers : ∀ rule ∈ others, P rule)
    (h : ∀ rule ∈ rules, P rule) : ∀ rule ∈ merge rules others, P rule := by
  induction others generalizing rules with
  | nil => exact h
  | cons other others ih =>
    obtain ⟨hother, hrest⟩ := List.forall_mem_cons.mp hothers
    exact ih hrest (forall_mem_mergeRule hother h)

variable {engine : PatternEngine}

/-- **A change brings no other patterns than its own**: if these can be read, and those that there
were, all can. -/
theorem Changes.compiles {file changed : RuleFile} {change : RuleChange} {answer : RuleAnswer}
    (hchange : file.Changes change changed answer) (h : file.Compiles engine)
    (hbrought : change.Compiles engine) : changed.Compiles engine := by
  cases hchange with
  | added hnew => exact List.forall_mem_append.mpr ⟨h, List.forall_mem_singleton.mpr hbrought⟩
  | updated hfound => exact forall_mem_updateFirst (fun rule hrule => hrule.apply hbrought) h
  | removed hfound => exact fun rule hmem => h rule ((removeFirst_sublist _ _).mem hmem)
  | merged hread => exact forall_mem_merge (hbrought _ hread) h
  | replaced hread => exact hbrought _ hread
  | reset => exact List.forall_mem_nil _

theorem compiles_remember {file : RuleFile} (h : file.Compiles engine) {change : RuleChange}
    (hbrought : change.Compiles engine) : (file.remember (.change change)).Compiles engine := by
  rw [remember]
  split
  · next changed answer hchange => exact (changes_of_change hchange).compiles h hbrought
  · exact h

end RuleFile

/-! ### Actions -/

/-- The patterns that an action brings from elsewhere can be read.  Those of a rule that is added
are not among them. -/
def RuleAction.ImportsCompile (engine : PatternEngine) : RuleAction → Prop
  | .importText text _ => ∀ imported, RuleFile.read? text = some imported → imported.Compiles engine
  | _ => True

/-- The changes that actions come down to bring patterns that can be read: a new rule is checked
first, and what is read now can be read at any time. -/
theorem RuleAction.compiles_of_plan {engine now : PatternEngine} (halike : now.Alike engine)
    {action : RuleAction} {path : String} {file : RuleFile} {change : RuleChange}
    {confirm : RuleAnswer → String} (himports : action.ImportsCompile engine)
    (hplan : action.plan now path file = .ok (.change change confirm)) :
    change.Compiles engine := by
  cases action with
  | list => cases hplan
  | display id =>
    rw [plan] at hplan
    split at hplan <;> cases hplan
  | add rule =>
    rw [plan] at hplan
    split at hplan
    · cases hplan
    · next hfailure =>
      cases hplan
      exact (Rule.compiles_congr halike).mp (Rule.compiles_of_patternFailure? hfailure)
  | remove id =>
    cases hplan
    trivial
  -- what puts a rule in force or out of force brings no pattern
  | enable id =>
    cases hplan
    exact fun text htext => nomatch htext
  | disable id =>
    cases hplan
    exact fun text htext => nomatch htext
  | exportFile => cases hplan
  | importText text merging =>
    cases hplan
    exact himports
  | reset =>
    cases hplan
    trivial

namespace RuleStore

variable {engine : PatternEngine} {path : String} {store : RuleStore} {fault : Option Fault}

theorem memory_perform (fault : Option Fault) (store : RuleStore) (change : RuleChange) :
    (store.perform fault change).1.memory = store.memory.remember (.change change) :=
  (store.serves_serve (.change change) fault).memory_eq

/-- A change leaves the file as it is, or the file holds the rules. -/
theorem disk_perform (fault : Option Fault) (store : RuleStore) (change : RuleChange) :
    (store.perform fault change).1.disk = store.disk ∨
      (store.perform fault change).1.disk = some (store.perform fault change).1.memory.exportText :=
  (store.serves_serve (.change change) fault).disk_eq

/-- An action does nothing to a store, or makes a change. -/
theorem act_cases (engine : PatternEngine) (path : String) (fault : Option Fault)
    (store : RuleStore) (action : RuleAction) :
    (store.act engine path fault action).1 = store ∨
      ∃ change confirm, action.plan engine path store.memory = .ok (.change change confirm) ∧
        (store.act engine path fault action).1 = (store.perform fault change).1 := by
  rw [act]
  cases hplan : action.plan engine path store.memory with
  | error failure => exact .inl rfl
  | ok plan =>
    -- what is planned is a text to show, or a change
    cases plan with
    | text text => exact .inl rfl
    | change change confirm => exact .inr ⟨change, confirm, rfl, rfl⟩

/-- **A rule whose pattern cannot be read is not added**, in force or not, and nothing happens. -/
theorem act_add_of_not_compiles {rule : Rule} (h : ¬ rule.Compiles engine) :
    ∃ reason, store.act engine path fault (.add rule) =
      (store, .error (.badPattern rule.id reason)) := by
  obtain ⟨reason, hfailure⟩ := Rule.exists_patternFailure? h
  exact ⟨reason, by simp only [act, RuleAction.plan, hfailure]⟩

/-- **A rule whose id is known is not added**, and nothing happens. -/
theorem act_add_of_known {rule : Rule} (h : rule.Compiles engine)
    (hknown : rule.id ∈ store.memory.ids) :
    store.act engine path fault (.add rule) = (store, .error (.ruleExists rule.id)) := by
  have hchange : store.memory.change (.add rule) = .error (.ruleExists rule.id) :=
    if_pos (RuleFile.isSome_get?_iff.mpr hknown)
  simp only [act, RuleAction.plan, Rule.patternFailure?_of_compiles h, perform, hchange]
  rfl

/-- **Any other rule is appended**, whether the file can be written or not. -/
theorem act_add_of_new {rule : Rule} (h : rule.Compiles engine)
    (hnew : rule.id ∉ store.memory.ids) :
    (store.act engine path fault (.add rule)).1.memory.rules = store.memory.rules ++ [rule] := by
  have hchange : store.memory.change (.add rule) =
      .ok ({ store.memory with rules := store.memory.rules ++ [rule] }, .done) :=
    if_neg (mt RuleFile.isSome_get?_iff.mp hnew)
  have hact : (store.act engine path fault (.add rule)).1 =
      (store.perform fault (.add rule)).1 := by
    simp only [act, RuleAction.plan, Rule.patternFailure?_of_compiles h]
  rw [hact, memory_perform, RuleFile.remember, hchange]

end RuleStore

/-! ### One thing after another -/

/-- What is asked of a store. -/
inductive RuleCall
  /-- An action. -/
  | act (action : RuleAction)
  /-- The text of the rules is written to a file; `own` says that it is the file of the rules
  itself. -/
  | exportTo (target : String) (own : Bool)

/-- The patterns that come from elsewhere can be read.  Without an import there are none. -/
def RuleCall.ImportsCompile (engine : PatternEngine) : RuleCall → Prop
  | .act action => action.ImportsCompile engine
  | .exportTo _ _ => True

/-- A call and what comes with it. -/
structure RuleTurn where
  /-- The call. -/
  call : RuleCall
  /-- How patterns are read this time. -/
  engine : PatternEngine
  /-- Why the file cannot be written this time, if it cannot. -/
  fault : Option Fault := none

namespace RuleStore

/-- The store after a call, and the text to show. -/
def call (engine : PatternEngine) (path : String) (fault : Option Fault) (store : RuleStore) :
    RuleCall → RuleStore × Except Failure String
  | .act action => store.act engine path fault action
  | .exportTo target own =>
    let written := contentAfterWrite store.disk store.memory.exportedText fault
    ({ store with disk := if own then written else store.disk },
      match fault with
      | some fault => .error (.io fault)
      | none => .ok (store.memory.exportNotice target))

/-- The store after one turn and then another. -/
def called (path : String) : RuleStore → List RuleTurn → RuleStore
  | store, [] => store
  | store, turn :: turns => called path (store.call turn.engine path turn.fault turn.call).1 turns

variable {engine now : PatternEngine} {path : String} {store start : RuleStore}

/-- A call keeps patterns readable. -/
theorem compiles_call (halike : now.Alike engine) (h : store.memory.Compiles engine)
    {call : RuleCall} (himports : call.ImportsCompile engine) (fault : Option Fault) :
    (store.call now path fault call).1.memory.Compiles engine := by
  cases call with
  | act action =>
    have haction : action.ImportsCompile engine := himports
    -- an action that changes the rules brings only patterns that its plan has checked
    rcases act_cases now path fault store action with hsame | ⟨change, confirm, hplan, hperform⟩
    · rw [call, hsame]
      exact h
    · rw [call, hperform, memory_perform]
      exact RuleFile.compiles_remember h (RuleAction.compiles_of_plan halike haction hplan)
  | exportTo target own => exact h

/-- A call leaves the file as it is, or the file holds the text of the rules, with nothing but space
behind it. -/
theorem disk_call (engine : PatternEngine) (path : String) (fault : Option Fault)
    (store : RuleStore) (call : RuleCall) :
    (store.call engine path fault call).1.disk = store.disk ∨
      ∃ gap : String, (∀ c ∈ gap.toList, Json.isSpace c) ∧
        (store.call engine path fault call).1.disk =
          some ((store.call engine path fault call).1.memory.exportText ++ gap) := by
  cases call with
  | act action =>
    rw [RuleStore.call]
    rcases act_cases engine path fault store action with hsame | ⟨change, confirm, -, hperform⟩
    · rw [hsame]
      exact .inl rfl
    · rw [hperform]
      refine (disk_perform fault store change).imp_right fun hdisk => ⟨"", by simp, ?_⟩
      rw [hdisk, String.append_empty]
  | exportTo target own =>
    -- an export to another file leaves the file of the rules alone
    cases own with
    | false => exact .inl rfl
    | true =>
      cases fault with
      | some fault => exact .inl rfl
      | none => exact .inr ⟨"\n", by simp [Json.isSpace], rfl⟩

/-- The content of the file can be opened, and gives rules whose patterns can be read. -/
def FileCompiles (engine : PatternEngine) (path : String) (content : Option String) : Prop :=
  ∃ memory, opened path content = .ok memory ∧ memory.Compiles engine

/-- What a call writes can be opened and run. -/
theorem fileCompiles_call (path : String) (halike : now.Alike engine)
    (h : store.memory.Compiles engine) {call : RuleCall} (himports : call.ImportsCompile engine)
    (fault : Option Fault) :
    (store.call now path fault call).1.disk = store.disk ∨
      FileCompiles engine path (store.call now path fault call).1.disk := by
  refine (disk_call now path fault store call).imp_right fun ⟨gap, hgap, hdisk⟩ => ?_
  refine ⟨(store.call now path fault call).1.memory, ?_, compiles_call halike h himports fault⟩
  rw [hdisk, opened, RuleFile.read?_exportText_append _ hgap]

/-- What holds of a store that was asked one thing after another, with an engine to read its
patterns. -/
structure Compilable (engine : PatternEngine) (path : String) (store start : RuleStore) : Prop where
  /-- All patterns can be read, those of the rules out of force too. -/
  patterns : store.memory.Compiles engine
  /-- Compiling the rules reports no failure. -/
  failures : (compileRules engine store.memory.rules).2 = []
  /-- What is compiled are the rules in force that have a pattern, in their order. -/
  compiled : List.Forall₂ (Rule.CompilesTo engine)
    (store.memory.rules.filter fun rule => rule.enabled && rule.pattern.isSome)
    (compileRules engine store.memory.rules).1
  /-- The file holds what it held at first, or rules whose patterns can be read. -/
  file : store.disk = start.disk ∨ FileCompiles engine path store.disk
  /-- A rule whose pattern cannot be read is not added, in force or not, and nothing happens. -/
  badPattern : ∀ (rule : Rule) (fault : Option Fault), ¬ rule.Compiles engine →
    ∃ reason, store.call engine path fault (.act (.add rule)) =
      (store, .error (.badPattern rule.id reason))
  /-- A rule whose id is known is not added, and nothing happens. -/
  knownId : ∀ (rule : Rule) (fault : Option Fault), rule.Compiles engine →
    rule.id ∈ store.memory.ids →
      store.call engine path fault (.act (.add rule)) = (store, .error (.ruleExists rule.id))
  /-- Any other rule is appended, whether the file can be written or not. -/
  appended : ∀ (rule : Rule) (fault : Option Fault), rule.Compiles engine →
    rule.id ∉ store.memory.ids →
      (store.call engine path fault (.act (.add rule))).1.memory.rules =
        store.memory.rules ++ [rule]

/-- Calls keep patterns readable, in memory and in the file. -/
theorem compiles_called (path : String) {turns : List RuleTurn} (h : store.memory.Compiles engine)
    (hfile : store.disk = start.disk ∨ FileCompiles engine path store.disk)
    (halike : ∀ turn ∈ turns, turn.engine.Alike engine)
    (himports : ∀ turn ∈ turns, turn.call.ImportsCompile engine) :
    (store.called path turns).memory.Compiles engine ∧
      ((store.called path turns).disk = start.disk ∨
        FileCompiles engine path (store.called path turns).disk) := by
  -- induction on the turns: what holds of the store is carried from one to the next
  induction turns generalizing store with
  | nil => exact ⟨h, hfile⟩
  | cons turn turns ih =>
    obtain ⟨halikeNow, halikeLater⟩ := List.forall_mem_cons.mp halike
    obtain ⟨hcall, hcalls⟩ := List.forall_mem_cons.mp himports
    refine ih (compiles_call halikeNow h hcall turn.fault) ?_ halikeLater hcalls
    rcases fileCompiles_call path halikeNow h hcall turn.fault with hsame | hwritten
    · rw [hsame]
      exact hfile
    · exact .inr hwritten

theorem FileCompiles.congr {content : Option String} (halike : now.Alike engine)
    (h : FileCompiles engine path content) : FileCompiles now path content := by
  obtain ⟨memory, hopened, hcompiles⟩ := h
  exact ⟨memory, hopened, fun rule hrule => (Rule.compiles_congr halike).mpr (hcompiles rule hrule)⟩

/-- **The rules of a store can always be run.**  Whatever is asked of a store whose patterns can be
read, and whichever writes fail, its patterns can be read, and compiling its rules reports no
failure and gives just the rules in force that have a pattern.  Only an import brings patterns that
are not checked.  The engines that read patterns on the way and in the end are assumed to be
alike. -/
theorem compilable_called (path : String) {start : RuleStore}
    (hstart : start.memory.Compiles engine) {turns : List RuleTurn}
    (halike : ∀ turn ∈ turns, turn.engine.Alike engine)
    (himports : ∀ turn ∈ turns, turn.call.ImportsCompile engine) (hnow : now.Alike engine) :
    (start.called path turns).Compilable now path start := by
  obtain ⟨hpatterns, hfile⟩ := compiles_called path hstart (.inl rfl) halike himports
  -- the engine that reads the rules now can read what the engines on the way could
  have hnowPatterns : (start.called path turns).memory.Compiles now :=
    fun rule hrule => (Rule.compiles_congr hnow).mpr (hpatterns rule hrule)
  have henabled : ∀ rule ∈ (start.called path turns).memory.rules,
      rule.enabled = true → rule.Compiles now :=
    fun rule hmem _ => hnowPatterns rule hmem
  exact
    { patterns := hnowPatterns
      failures := compileRules_failures_eq_nil_iff.mpr henabled
      compiled := forall₂_compileRules henabled
      file := hfile.imp_right (FileCompiles.congr hnow)
      badPattern := fun _ _ => act_add_of_not_compiles
      knownId := fun _ _ => act_add_of_known
      appended := fun _ _ => act_add_of_new }

/-- A rule is added out of force while the file cannot be written, another one is refused for its
pattern, and the first is put in force. -/
theorem compilable_called_put_in_force :
    let engine := Pattern.engine
    let rule : Rule :=
      { id := "SEMICOLON", name := "No semicolons", category := .bestPractice, severity := .info,
        enabled := false, pattern := some ";", message := "Semicolon found" }
    let start : RuleStore :=
      { memory := { rules := [{ rule with id := "EQUALS", enabled := true, pattern := some "=" }] }
        disk := none }
    let turns : List RuleTurn :=
      [⟨.act (.add rule), engine, some ⟨"disk full"⟩⟩,
        ⟨.act (.add { rule with id := "OPEN", pattern := some "(" }), engine, none⟩,
        ⟨.act (.enable "SEMICOLON"), engine, none⟩, ⟨.exportTo "rules.json" true, engine, none⟩,
        ⟨.act (.remove "EQUALS"), engine, none⟩]
    start.memory.Compiles engine ∧ (∀ turn ∈ turns, turn.engine.Alike engine) ∧
      (∀ turn ∈ turns, turn.call.ImportsCompile engine) ∧
      (start.called "rules.json" turns).memory.rules = [{ rule with enabled := true }] ∧
      (start.called "rules.json" turns).Compilable engine "rules.json" start := by
  intro engine rule start turns
  -- that the pattern can be read is seen from compiling the rules at the start
  have hfailures : (compileRules engine start.memory.rules).2.isEmpty = true := by decide +kernel
  have henabled : ∀ equals ∈ start.memory.rules, equals.enabled = true := by decide
  have hstart : start.memory.Compiles engine := fun equals hmem =>
    compileRules_failures_eq_nil_iff.mp (List.isEmpty_iff.mp hfailures) equals hmem
      (henabled equals hmem)
  have halike : ∀ turn ∈ turns, turn.engine.Alike engine := by
    simp [turns, PatternEngine.Alike]
  have himports : ∀ turn ∈ turns, turn.call.ImportsCompile engine := by
    simp [turns, RuleCall.ImportsCompile, RuleAction.ImportsCompile]
  exact ⟨hstart, halike, himports, by decide +kernel,
    compilable_called "rules.json" hstart halike himports .rfl⟩

end RuleStore

end RpgLint
