import Mathlib.Data.String.Basic
import RpgLint.Proofs.Check.RuleNames

/-!
# Codes to avoid

The list of operation codes to avoid names single codes, and two families of codes that end in a
condition.  No code is named twice, so that the order of the list does not matter.  A condition is
two characters, but it is measured in bytes: a single character of two bytes passes for a condition,
and two characters do not if one of them takes more than one byte.  The code of a jump is on the
list, so that no jump is found without the finding on its code.

## Main definitions

* `OpcodeFamily.Names` — the codes of a family, told by their characters.
* `Miscounted`, `OpcodeFamily.Miscounts` — the conditions that bytes and characters measure
  differently.

## Main results

* `OpcodeFamily.accepts_iff_names_iff` — when a family accepts just the codes that it names.
* `DeprecatedOpcode.eq_of_accepts` — no code is accepted by two entries of the list.
* `jumpIssue?_isSome_iff` — where jumps are found.
* `deprecated_codes_by_character_iff` — the entry for a code.
-/

namespace RpgLint

/-! ### Conditions by characters and by bytes -/

/-- A condition that characters and bytes measure differently: a single character of two bytes, or
two characters that do not take one byte each. -/
def Miscounted (condition : List Char) : Prop :=
  (∃ c, condition = [c] ∧ c.utf8Size = 2) ∨
    ∃ c d, condition = [c, d] ∧ ¬(c.utf8Size = 1 ∧ d.utf8Size = 1)

theorem miscounted_iff {condition : List Char} :
    Miscounted condition ↔ ¬(String.utf8Len condition = 2 ↔ condition.length = 2) := by
  unfold Miscounted
  match condition with
  | [] => simp
  | [c] => simp
  | [c, d] =>
    have hc := c.utf8Size_pos
    have hd := d.utf8Size_pos
    simp
    omega
  | c :: d :: e :: rest =>
    -- three characters take three bytes at least
    have hc := c.utf8Size_pos
    have hd := d.utf8Size_pos
    have he := e.utf8Size_pos
    simp
    omega

namespace OpcodeFamily

/-- What all codes of the family begin with. -/
def stem : OpcodeFamily → String
  | exact code => code
  | conditional stem => stem

/-- The codes of the family end in a condition. -/
def isConditional : OpcodeFamily → Bool
  | exact _ => false
  | conditional _ => true

/-- The code is in the family, character by character: it is the one code, or the stem alone or with
a condition of two characters. -/
def Names : OpcodeFamily → String → Prop
  | exact code, opcode => opcode = code
  | conditional stem, opcode =>
    ∃ condition, opcode.toList = stem.toList ++ condition ∧ (condition = [] ∨ condition.length = 2)

/-- The code is the stem of the family with a condition that characters and bytes measure
differently. -/
def Miscounts : OpcodeFamily → String → Prop
  | exact _, _ => False
  | conditional stem, opcode =>
    ∃ condition, opcode.toList = stem.toList ++ condition ∧ Miscounted condition

variable {family : OpcodeFamily} {opcode : String}

/-- A family accepts its stem, alone or with a condition of two bytes. -/
theorem accepts_conditional_iff {stem : String} :
    (conditional stem).accepts opcode = true ↔
      ∃ condition, opcode.toList = stem.toList ++ condition ∧
        (condition = [] ∨ String.utf8Len condition = 2) := by
  -- two bytes more than the stem are two bytes behind it
  have hsize : ∀ condition, opcode.toList = stem.toList ++ condition →
      opcode.utf8ByteSize = stem.utf8ByteSize + String.utf8Len condition := by
    intro condition hsplit
    rw [← String.utf8Len_toList opcode, hsplit, String.utf8Len_append, String.utf8Len_toList]
  simp only [accepts, startsWith, Bool.and_eq_true, Bool.or_eq_true, beq_iff_eq,
    List.isPrefixOf_iff_prefix]
  constructor
  · rintro ⟨⟨condition, hsplit⟩, hbytes⟩
    have := hsize condition hsplit.symm
    refine ⟨condition, hsplit.symm,
      hbytes.imp (fun hsame => String.utf8Len_eq_zero.mp ?_) fun htwo => ?_⟩ <;> omega
  · rintro ⟨condition, hsplit, hbytes⟩
    have := hsize condition hsplit
    refine ⟨⟨condition, hsplit.symm⟩, hbytes.imp (fun hnil => ?_) fun htwo => ?_⟩
    · rw [this, hnil, String.utf8Len_nil, Nat.add_zero]
    · rw [this, htwo]

/-- **A family accepts just the codes that it names** exactly when the code has no condition that
characters and bytes measure differently. -/
theorem accepts_iff_names_iff :
    (family.accepts opcode = true ↔ family.Names opcode) ↔ ¬family.Miscounts opcode := by
  cases family with
  | exact code => simp [accepts, Names, Miscounts]
  | conditional stem =>
    rw [accepts_conditional_iff, Names, Miscounts]
    by_cases hstem : ∃ condition, opcode.toList = stem.toList ++ condition
    · obtain ⟨condition, hsplit⟩ := hstem
      -- the condition is what stands behind the stem, so that there is only one to speak of
      have hone : ∀ p : List Char → Prop,
          (∃ other, opcode.toList = stem.toList ++ other ∧ p other) ↔ p condition := by
        intro p
        constructor
        · rintro ⟨other, hother, hp⟩
          rwa [List.append_cancel_left (hsplit.symm.trans hother)]
        · exact fun hp => ⟨condition, hsplit, hp⟩
      rw [hone, hone, hone, miscounted_iff, not_not]
      cases condition with
      | nil => simp
      | cons c rest => simp
    · -- without the stem neither is the case
      have hnone : ∀ p : List Char → Prop,
          ¬∃ other, opcode.toList = stem.toList ++ other ∧ p other := by
        rintro p ⟨other, hother, -⟩
        exact hstem ⟨other, hother⟩
      exact iff_of_true (iff_of_false (hnone _) (hnone _)) (hnone _)

theorem stem_prefix_of_accepts (h : family.accepts opcode = true) :
    family.stem.toList <+: opcode.toList := by
  cases family with
  | exact code =>
    rw [accepts, beq_iff_eq] at h
    rw [h]
    exact List.prefix_rfl
  | conditional stem =>
    obtain ⟨condition, hsplit, -⟩ := accepts_conditional_iff.mp h
    exact ⟨condition, hsplit.symm⟩

end OpcodeFamily

/-! ### The list -/

/-- In a list where at most one member has a property, that one is found. -/
theorem find?_eq_some_iff_of_unique {α : Type} {p : α → Bool} {l : List α}
    (hunique : ∀ a ∈ l, ∀ b ∈ l, p a = true → p b = true → a = b) {a : α} :
    l.find? p = some a ↔ a ∈ l ∧ p a = true := by
  constructor
  · exact fun hfound => ⟨List.mem_of_find?_eq_some hfound, List.find?_some hfound⟩
  · rintro ⟨hmem, hp⟩
    obtain ⟨b, hb⟩ := Option.isSome_iff_exists.mp (List.find?_isSome.mpr ⟨a, hmem, hp⟩)
    rw [hb, hunique a hmem b (List.mem_of_find?_eq_some hb) hp (List.find?_some hb)]

namespace DeprecatedOpcode

/-- No two entries of the list have the same family. -/
theorem eq_of_family_eq :
    ∀ entry ∈ all, ∀ other ∈ all, entry.family = other.family → entry = other := by
  decide

/-- No stem of a family with a condition begins another code of the list, nor the other way
round. -/
theorem eq_of_stem_begins : ∀ entry ∈ all, ∀ other ∈ all,
    entry.family.isConditional = true ∨ other.family.isConditional = true →
      entry.family.stem.toList <+: other.family.stem.toList → entry = other := by
  decide

/-- **No code is accepted by two entries of the list.** -/
theorem eq_of_accepts {opcode : String} {entry other : DeprecatedOpcode} (hentry : entry ∈ all)
    (hother : other ∈ all) (haccepts : entry.family.accepts opcode = true)
    (haccepts' : other.family.accepts opcode = true) :
    entry = other := by
  by_cases hconditional : entry.family.isConditional = true ∨ other.family.isConditional = true
  · -- both stems begin the code, so that one of them begins the other
    rcases List.prefix_or_prefix_of_prefix (OpcodeFamily.stem_prefix_of_accepts haccepts)
      (OpcodeFamily.stem_prefix_of_accepts haccepts') with hprefix | hprefix
    · exact eq_of_stem_begins entry hentry other hother hconditional hprefix
    · exact (eq_of_stem_begins other hother entry hentry hconditional.symm hprefix).symm
  · -- both families are the code itself
    refine eq_of_family_eq entry hentry other hother ?_
    obtain ⟨hleft, hright⟩ := not_or.mp hconditional
    cases hfamily : entry.family with
    | conditional stem => simp [hfamily, OpcodeFamily.isConditional] at hleft
    | exact code =>
      cases hfamily' : other.family with
      | conditional stem => simp [hfamily', OpcodeFamily.isConditional] at hright
      | exact code' =>
        rw [hfamily, OpcodeFamily.accepts, beq_iff_eq] at haccepts
        rw [hfamily', OpcodeFamily.accepts, beq_iff_eq] at haccepts'
        rw [← haccepts, ← haccepts']

/-- The entry for a code is the one that accepts it. -/
theorem find?_eq_some_iff {opcode : String} {entry : DeprecatedOpcode} (hentry : entry ∈ all) :
    find? opcode = some entry ↔ entry.family.accepts (baseOpcode opcode) = true := by
  rw [find?, find?_eq_some_iff_of_unique fun _ ha _ hb => eq_of_accepts ha hb, and_iff_right hentry]

/-- The order of the list does not matter. -/
theorem find?_perm {entries : List DeprecatedOpcode} (hperm : entries.Perm all) (opcode : String) :
    entries.find? (·.family.accepts (baseOpcode opcode)) = find? opcode := by
  refine Option.ext fun entry => ?_
  rw [find?, find?_eq_some_iff_of_unique fun _ ha _ hb => eq_of_accepts ha hb,
    find?_eq_some_iff_of_unique fun _ ha _ hb => eq_of_accepts (hperm.subset ha) (hperm.subset hb),
    hperm.mem_iff]

/-- The entry for jumps. -/
theorem exists_jump : ∃ entry ∈ all, entry.family = .exact "GOTO" := by
  decide

end DeprecatedOpcode

/-! ### Jumps -/

/-- **A jump is found exactly where its code is**, on the same lines. -/
theorem jumpIssue?_isSome_iff {entry : DeprecatedOpcode} (hentry : entry ∈ DeprecatedOpcode.all)
    (hfamily : entry.family = .exact "GOTO") (line : Line) :
    (jumpIssue? line).isSome = true ↔ DeprecatedOpcode.ofLine? line = some entry := by
  unfold jumpIssue? DeprecatedOpcode.ofLine?
  cases line.isComment with
  | true => simp
  | false =>
    cases line.opcode? with
    | none => simp
    | some opcode =>
      have hfound : DeprecatedOpcode.find? opcode = some entry ↔ _ :=
        DeprecatedOpcode.find?_eq_some_iff hentry
      rw [hfamily, OpcodeFamily.accepts, beq_iff_eq] at hfound
      by_cases hjump : baseOpcode opcode = "GOTO" <;> simp [hjump, hfound]

/-- The finding on a jump comes with the finding on its code, on the same line. -/
theorem deprecatedIssue_mem_of_jump {line : Line} {lines : List Line} (hline : line ∈ lines)
    {issue : Issue} (hissue : jumpIssue? line = some issue) :
    issue.line = line.number ∧
      ∃ entry ∈ DeprecatedOpcode.all, entry.family = .exact "GOTO" ∧
        deprecatedIssue line entry ∈ checkDeprecated lines := by
  obtain ⟨entry, hentry, hfamily⟩ := DeprecatedOpcode.exists_jump
  have hfound := (jumpIssue?_isSome_iff hentry hfamily line).mp (hissue ▸ rfl)
  have hlisted : issue ∈ checkJumps [line] :=
    List.mem_filterMap.mpr ⟨line, List.mem_singleton_self line, hissue⟩
  obtain ⟨other, hother, hwritten⟩ := written_checkJumps [line] issue hlisted
  have hnumber : issue.line = line.number := List.mem_singleton.mp hother ▸ hwritten.line_eq
  exact ⟨hnumber, entry, hentry, hfamily,
    List.mem_filterMap.mpr ⟨line, hline, by rw [hfound, Option.map_some]⟩⟩

/-- Under the rule on jumps a pass reports jumps, and what rules of the user with that name find. -/
theorem exists_jump_of_rule {rules : List CompiledRule} {level : Level} {lines : List Line}
    {issue : Issue} (hissue : issue ∈ practicePass rules level lines)
    (hrule : issue.rule = "NO_GOTO") :
    issue ∈ checkRules rules lines ∨
      (level.atLeastStandard = true ∧ ∃ line ∈ lines, jumpIssue? line = some issue) := by
  -- no other check of the pass has the rule
  have hnot : ∀ {names : List String} {issues : List Issue}, NamesOnly names issues →
      "NO_GOTO" ∉ names →
      issue ∉ issues := fun hnames hother hmem => hother (hrule ▸ hnames issue hmem)
  simp only [practicePass, List.mem_append] at hissue
  rcases hissue with ((hcode | hpractice) | hadvice) | hown
  · exact absurd hcode (hnot (written_checkDeprecated lines).namesOnly (by decide))
  · cases hlevel : level.atLeastStandard with
    | false => rw [hlevel] at hpractice; cases hpractice
    | true =>
      rw [hlevel, if_pos rfl, List.mem_append] at hpractice
      rcases hpractice with hindicator | hjump
      · exact absurd hindicator (hnot (written_checkIndicators lines).namesOnly (by decide))
      · exact .inr ⟨rfl, List.mem_filterMap.mp hjump⟩
  · have hfirst : (Line.classify 1 "").number = 1 := rfl
    exact absurd hadvice
      (hnot ((written_adviseFreeForm? hfirst lines).namesOnly.gate _) (by decide))
  · exact .inl hown

/-! ### The entry for a code -/

/-- **The entry for a code.**  An entry is found for the codes that it names, character by
character, exactly when the code has no condition that characters and bytes measure differently; the
entries for a single code are always so.  No code is accepted by two entries, and the order of the
list does not matter.  A jump is reported from the standard level on, and only on a line where the
code of jumps is reported too. -/
theorem deprecated_codes_by_character_iff (opcode : String) (rules : List CompiledRule)
    (level : Level) (lines : List Line) :
    (∀ entry ∈ DeprecatedOpcode.all,
      ((DeprecatedOpcode.find? opcode = some entry ↔ entry.family.Names (baseOpcode opcode)) ↔
        ¬entry.family.Miscounts (baseOpcode opcode))) ∧
      (∀ entry ∈ DeprecatedOpcode.all, ∀ other ∈ DeprecatedOpcode.all,
        entry.family.accepts (baseOpcode opcode) = true →
          other.family.accepts (baseOpcode opcode) = true →
          entry = other) ∧
      (∀ entries : List DeprecatedOpcode, entries.Perm DeprecatedOpcode.all →
        entries.find? (·.family.accepts (baseOpcode opcode)) = DeprecatedOpcode.find? opcode) ∧
      (∀ issue ∈ practicePass rules level lines, issue.rule = "NO_GOTO" →
        issue ∈ checkRules rules lines ∨
          (level.atLeastStandard = true ∧ ∃ line ∈ lines, jumpIssue? line = some issue)) ∧
      ∀ line ∈ lines, ∀ issue ∈ jumpIssue? line, issue.line = line.number ∧
        ∃ entry ∈ DeprecatedOpcode.all, entry.family = .exact "GOTO" ∧
          deprecatedIssue line entry ∈ practicePass rules level lines := by
  refine ⟨fun entry hentry => ?_, fun entry hentry other hother => ?_,
    fun entries hperm => DeprecatedOpcode.find?_perm hperm opcode, ?_, ?_⟩
  · rw [DeprecatedOpcode.find?_eq_some_iff hentry]
    exact OpcodeFamily.accepts_iff_names_iff
  · exact DeprecatedOpcode.eq_of_accepts hentry hother
  · exact fun issue hissue hrule => exists_jump_of_rule hissue hrule
  · intro line hline issue hissue
    obtain ⟨hnumber, entry, hentry, hfamily, hreported⟩ := deprecatedIssue_mem_of_jump hline hissue
    refine ⟨hnumber, entry, hentry, hfamily, ?_⟩
    simp only [practicePass, List.mem_append]
    exact .inl (.inl (.inl hreported))

/-- A single character of two bytes is taken for a condition. -/
theorem character_taken_for_condition :
    ¬∀ (opcode : String), ∀ entry ∈ DeprecatedOpcode.all,
      (DeprecatedOpcode.find? opcode = some entry ↔ entry.family.Names (baseOpcode opcode)) := by
  intro h
  have hfound : ∃ entry ∈ DeprecatedOpcode.all,
      DeprecatedOpcode.find? "CABÉ" = some entry ∧ entry.family = .conditional "CAB" := by
    decide
  obtain ⟨entry, hentry, hfound, hfamily⟩ := hfound
  have hnamed := (h "CABÉ" entry hentry).mp hfound
  rw [hfamily] at hnamed
  obtain ⟨condition, hsplit, hcondition⟩ := hnamed
  -- one character behind the stem is neither none nor two
  have hlength : ("CAB".toList ++ condition).length = 4 := by rw [← hsplit]; decide
  rcases hcondition with rfl | htwo
  · exact absurd hlength (by decide)
  · rw [List.length_append, htwo] at hlength
    exact absurd hlength (by decide)

end RpgLint
