import RpgLint.Proofs.Check.SizeCorrection

/-!
# One finding under a rule on a definition line

Several checks read the same columns of a definition, and two rules have two checks each.  A line is
reported under a rule once at most all the same.  A keyword in the size field has letters next to
one another, while a size that is fused with its data type has a single letter, so that only one of
the two is found; and the period at the end of a name is looked for in the name field or in front of
the three periods that continue a long name, as the line has them.

## Main definitions

* `RulesOnce` — findings under different rules.
* `Definition.lineParts` — the checks that are made on a line, each with its rules.

## Main results

* `rulesOnce_flatMap` — checks with rules of their own.
* `Definition.keywordBleed?_or_fusedSize?` — a keyword or a fused size.
* `checkDefinition_rules_once` — each rule once on a definition line.
-/

namespace RpgLint

/-! ### Findings under different rules -/

/-- No two of the findings are under the same rule. -/
def RulesOnce (issues : List Issue) : Prop := (issues.map (·.rule)).Nodup

theorem rulesOnce_toList (issue : Option Issue) : RulesOnce issue.toList := by
  cases issue with
  | none => exact List.nodup_nil
  | some issue => exact List.nodup_cons.mpr ⟨List.not_mem_nil, List.nodup_nil⟩

theorem RulesOnce.gate {issues : List Issue} (h : RulesOnce issues) (condition : Prop)
    [Decidable condition] : RulesOnce (if condition then issues else []) := by
  split
  · exact h
  · exact List.nodup_nil

/-- Two checks that have no rule in common. -/
theorem RulesOnce.append {front back : List Issue} (hfront : RulesOnce front)
    (hback : RulesOnce back) {names more : List String} (hnames : NamesOnly names front)
    (hmore : NamesOnly more back) (hdifferent : ∀ name ∈ names, ∀ other ∈ more, name ≠ other) :
    RulesOnce (front ++ back) := by
  rw [RulesOnce, List.map_append, List.nodup_append]
  refine ⟨hfront, hback, ?_⟩
  simp only [List.forall_mem_map]
  exact fun issue hissue other hother => hdifferent _ (hnames issue hissue) _ (hmore other hother)

section

variable {parts : List (List String × List Issue)}
  (hnames : ∀ part ∈ parts, NamesOnly part.1 part.2)

include hnames

theorem namesOnly_flatMap : NamesOnly (parts.flatMap Prod.fst) (parts.flatMap Prod.snd) := by
  intro issue hissue
  obtain ⟨part, hpart, hmem⟩ := List.mem_flatMap.mp hissue
  exact List.mem_flatMap.mpr ⟨part, hpart, hnames part hpart issue hmem⟩

/-- **Checks with rules of their own**, each of which reports under a rule once, do so together. -/
theorem rulesOnce_flatMap (honce : ∀ part ∈ parts, RulesOnce part.2)
    (hown : (parts.flatMap Prod.fst).Nodup) :
    RulesOnce (parts.flatMap Prod.snd) := by
  induction parts with
  | nil => exact List.nodup_nil
  | cons part parts ih =>
    obtain ⟨hpart, hrest⟩ := List.forall_mem_cons.mp hnames
    obtain ⟨hhere, hlater⟩ := List.forall_mem_cons.mp honce
    rw [List.flatMap_cons, List.nodup_append] at hown
    rw [List.flatMap_cons]
    -- the first check has no rule in common with the later ones
    exact hhere.append (ih hrest hlater hown.2.1) hpart (namesOnly_flatMap hrest) hown.2.2

/-- A finding comes from a check that has its rule. -/
theorem mem_flatMap_filter_rule {issue : Issue} (h : issue ∈ parts.flatMap Prod.snd) :
    issue ∈ (parts.filter (issue.rule ∈ ·.1)).flatMap Prod.snd := by
  obtain ⟨part, hpart, hmem⟩ := List.mem_flatMap.mp h
  have hrule : decide (issue.rule ∈ part.1) = true := decide_eq_true (hnames part hpart issue hmem)
  exact List.mem_flatMap.mpr ⟨part, List.mem_filter.mpr ⟨hpart, hrule⟩, hmem⟩

end

namespace Definition

/-! ### A keyword or a fused size -/

/-- The letters `A` to `Z`. -/
def capitals : List Char := "ABCDEFGHIJKLMNOPQRSTUVWXYZ".toList

/-- In a field with one letter at most, in either case, there is no keyword. -/
theorem strayKeyword?_eq_none_of_countP {raw : String}
    (h : (Field.toLength.text raw).toList.countP (capitals.contains ·.toUpper) ≤ 1) :
    strayKeyword? raw = none := by
  -- every keyword has two letters at least
  have hletters : ∀ keyword ∈ shiftKeywords,
      2 ≤ (keywordStart keyword).toList.countP capitals.contains := by decide
  refine List.find?_eq_none.mpr fun keyword hkeyword hfound => ?_
  have hle := ((Chars.hasInfix_iff _ _).mp hfound).sublist.countP_le (p := capitals.contains)
  rw [upper, String.toList_ofList, List.countP_map] at hle
  exact absurd ((hletters keyword hkeyword).trans (hle.trans h)) (by decide)

/-- A fused size has one letter at most. -/
theorem countP_letters_of_splitFused? {size digits : String} {letter : Char}
    (h : splitFused? size = some (digits, letter)) :
    size.toList.countP (capitals.contains ·.toUpper) ≤ 1 := by
  obtain ⟨hsize, -, hdigits⟩ := toList_of_splitFused? h
  have hnone : digits.toList.countP (capitals.contains ·.toUpper) = 0 := by
    refine List.countP_eq_zero.mpr fun c hc => ?_
    have hten : "0123456789".toList.all (fun d => !capitals.contains d.toUpper) = true := by decide
    simpa using of_isAsciiDigit (hdigits c hc) hten
  rw [hsize, List.countP_append, hnone, Nat.zero_add]
  exact List.countP_le_length

/-- The field of a size that is found fused with its data type. -/
theorem exists_split_of_fusedSize? {line : Line} {issue : Issue}
    (h : fusedSize? line = some issue) :
    ∃ size digits letter, Field.toLength.extract? line.raw = some size ∧
      splitFused? size = some (digits, letter) := by
  unfold fusedSize? at h
  split at h
  · cases h
  · next size hsize =>
    split at h
    · cases h
    · next digits letter hsplit => exact ⟨size, digits, letter, hsize, hsplit⟩

/-- A blank is no letter, in either case. -/
theorem contains_capitals_of_isBlank {c : Char} (h : isBlank c = true) :
    capitals.contains c.toUpper = false := by
  have hcapitals : capitals.all (!isBlank ·) = true := by decide
  rw [toUpper_of_isBlank h, ← Bool.not_eq_true, List.contains_iff_mem]
  intro hmem
  have hnot := List.all_eq_true.mp hcapitals c hmem
  rw [h] at hnot
  cases hnot

/-- **A keyword or a fused size**, but not both. -/
theorem keywordBleed?_or_fusedSize? (line : Line) :
    keywordBleed? line = none ∨ fusedSize? line = none := by
  cases hfused : fusedSize? line with
  | none => exact .inr rfl
  | some issue =>
    left
    obtain ⟨size, digits, letter, hsize, hsplit⟩ := exists_split_of_fusedSize? hfused
    -- the field has the letters of the size, and no keyword has so few
    have hcount := countP_letters_of_splitFused? hsplit
    rw [← Span.trim_text_of_extract? hsize,
      Chars.countP_trim fun _ => contains_capitals_of_isBlank] at hcount
    unfold keywordBleed?
    rw [strayKeyword?_eq_none_of_countP hcount]
    split <;> rfl

/-! ### The checks of a line -/

/-- The checks of the fields, each with its rules. -/
def fieldParts (level : Level) (line : Line) : List (List String × List Issue) :=
  let standard := fun issue : Option Issue => if level.atLeastStandard then issue.toList else []
  [(["D_SPEC_POSITION_ERROR"], (positionOrder? line).toList),
    (["D_SPEC_DECL_TYPE"], standard (declarationType? line)),
    (["D_SPEC_DECL_TYPE_MISPLACED"], standard (misplacedDeclaration? line)),
    (["D_SPEC_TRAILING_PERIOD"], standard (trailingPeriod? line)),
    (["D_SPEC_DATATYPE"], standard (dataType? line)),
    (["D_SPEC_POINTER_POSITION", "D_SPEC_SIZE_FIELD"], standard (sizeField? line)),
    (["D_SPEC_DECIMAL"], standard (decimalPositions? line)),
    (["D_SPEC_COLUMN_SHIFT"], standard (keywordBleed? line) ++ (fusedSize? line).toList),
    (["D_SPEC_NAME_POSITION"], if level.isStrict then (namePosition? line).toList else [])]

/-- The checks of a line that is no comment, each with its rules. -/
def lineParts (level : Level) (line : Line) : List (List String × List Issue) :=
  (["D_SPEC_COL6"], (letterIssue? line 'D').toList) ::
    match line.continuation with
    | some .marker => []
    | some .blankField => [(["D_SPEC_MISSING_NAME"], (missingName? line).toList)]
    | none =>
      if continuesName line.raw then
        [(["D_SPEC_TRAILING_PERIOD"],
          if level.atLeastStandard then (periodBeforeMarker? line).toList else [])]
      else fieldParts level line

section

variable (level : Level) (line : Line)

theorem checkFields_eq_flatMap :
    checkFields level line = (fieldParts level line).flatMap Prod.snd := by
  unfold checkFields fieldParts
  cases level.atLeastStandard <;> simp

theorem namesOnly_fieldParts : ∀ part ∈ fieldParts level line, NamesOnly part.1 part.2 := by
  simp only [fieldParts, List.forall_mem_cons]
  exact ⟨(written_positionOrder? line).namesOnly, (written_declarationType? line).namesOnly.gate _,
    (written_misplacedDeclaration? line).namesOnly.gate _,
    (written_trailingPeriod? line).namesOnly.gate _, (written_dataType? line).namesOnly.gate _,
    (written_sizeField? line).namesOnly.gate _,
    (written_decimalPositions? line).namesOnly.gate _,
    ((written_keywordBleed? line).namesOnly.gate _).append (written_fusedSize? line).namesOnly,
    (written_namePosition? line).namesOnly.gate _, List.forall_mem_nil _⟩

theorem rulesOnce_fieldParts : ∀ part ∈ fieldParts level line, RulesOnce part.2 := by
  -- the one rule with two checks that are both made
  have hshift : RulesOnce ((if level.atLeastStandard then (keywordBleed? line).toList else []) ++
      (fusedSize? line).toList) := by
    rcases keywordBleed?_or_fusedSize? line with hnone | hnone
    · simpa [hnone] using rulesOnce_toList (fusedSize? line)
    · simpa [hnone] using (rulesOnce_toList (keywordBleed? line)).gate _
  simp only [fieldParts, List.forall_mem_cons]
  exact ⟨rulesOnce_toList _, (rulesOnce_toList _).gate _, (rulesOnce_toList _).gate _,
    (rulesOnce_toList _).gate _, (rulesOnce_toList _).gate _, (rulesOnce_toList _).gate _,
    (rulesOnce_toList _).gate _, hshift, (rulesOnce_toList _).gate _, List.forall_mem_nil _⟩

theorem checkDefinition_eq_flatMap :
    checkDefinition level line =
      if line.isComment then [] else (lineParts level line).flatMap Prod.snd := by
  unfold checkDefinition lineParts
  rw [List.flatMap_cons]
  split
  · rfl
  · congr 1
    cases line.continuation with
    | none =>
      show (if _ then _ else _) = List.flatMap Prod.snd (if _ then _ else _)
      split
      · rw [List.flatMap_cons, List.flatMap_nil, List.append_nil]
      · exact checkFields_eq_flatMap level line
    | some kind =>
      cases kind with
      | marker => rfl
      | blankField => exact (List.append_nil _).symm

theorem namesOnly_lineParts : ∀ part ∈ lineParts level line, NamesOnly part.1 part.2 := by
  refine List.forall_mem_cons.mpr ⟨(written_letterIssue? line 'D').namesOnly, ?_⟩
  split
  · exact List.forall_mem_nil _
  · exact List.forall_mem_singleton.mpr (written_missingName? line).namesOnly
  · split
    · exact List.forall_mem_singleton.mpr ((written_periodBeforeMarker? line).namesOnly.gate _)
    · exact namesOnly_fieldParts level line

theorem rulesOnce_lineParts : ∀ part ∈ lineParts level line, RulesOnce part.2 := by
  refine List.forall_mem_cons.mpr ⟨rulesOnce_toList _, ?_⟩
  split
  · exact List.forall_mem_nil _
  · exact List.forall_mem_singleton.mpr (rulesOnce_toList _)
  · split
    · exact List.forall_mem_singleton.mpr ((rulesOnce_toList _).gate _)
    · exact rulesOnce_fieldParts level line

/-- No two checks that are made on a line have a rule in common. -/
theorem nodup_rules_lineParts : ((lineParts level line).flatMap Prod.fst).Nodup := by
  have hfields : (fieldParts level line).flatMap Prod.fst =
      ["D_SPEC_POSITION_ERROR", "D_SPEC_DECL_TYPE", "D_SPEC_DECL_TYPE_MISPLACED",
        "D_SPEC_TRAILING_PERIOD", "D_SPEC_DATATYPE", "D_SPEC_POINTER_POSITION",
        "D_SPEC_SIZE_FIELD", "D_SPEC_DECIMAL", "D_SPEC_COLUMN_SHIFT",
        "D_SPEC_NAME_POSITION"] := rfl
  show (["D_SPEC_COL6"] ++ List.flatMap Prod.fst _).Nodup
  -- a line goes through the checks of one of four kinds, besides that of the letter
  split
  · decide
  · show ["D_SPEC_COL6", "D_SPEC_MISSING_NAME"].Nodup
    decide
  · split
    · show ["D_SPEC_COL6", "D_SPEC_TRAILING_PERIOD"].Nodup
      decide
    · rw [hfields]
      decide

variable {level line} {issue : Issue}

/-- A finding comes from a check that has its rule. -/
theorem mem_lineParts_of_mem_checkDefinition (h : issue ∈ checkDefinition level line) :
    issue ∈ ((lineParts level line).filter (issue.rule ∈ ·.1)).flatMap Prod.snd := by
  rw [checkDefinition_eq_flatMap] at h
  split at h
  · cases h
  · exact mem_flatMap_filter_rule (namesOnly_lineParts level line) h

/-- **The period at the end of a name** is looked for in one place only. -/
theorem eq_some_of_rule_trailingPeriod (h : issue ∈ checkDefinition level line)
    (hrule : issue.rule = "D_SPEC_TRAILING_PERIOD") :
    (if continuesName line.raw then periodBeforeMarker? line else trailingPeriod? line) =
      some issue := by
  have hmem := mem_lineParts_of_mem_checkDefinition h
  rw [hrule, lineParts] at hmem
  -- only two of the four kinds of lines have this rule
  split at hmem
  · simp at hmem
  · simp at hmem
  · split at hmem
    · simp_all
    · simp_all [fieldParts]

/-- A finding on the size field is that of the one check of it. -/
theorem sizeField?_eq_some (h : issue ∈ checkDefinition level line)
    (hrule : issue.rule ∈ ["D_SPEC_POINTER_POSITION", "D_SPEC_SIZE_FIELD"]) :
    sizeField? line = some issue := by
  have hmem := mem_lineParts_of_mem_checkDefinition h
  rcases List.mem_pair.mp hrule with hrule | hrule
  all_goals
    rw [hrule, lineParts] at hmem
    split at hmem
    · simp at hmem
    · simp at hmem
    · split at hmem
      · simp at hmem
      · simp_all [fieldParts]

end

end Definition

open Definition

/-- **Each rule once on a definition line**, whatever the level.  A keyword in the size field and a
size fused with its data type are never both found; the period at the end of a name is found by the
one check that fits the line; and an asterisk in the wrong column is not also a size that is no
number. -/
theorem checkDefinition_rules_once (level : Level) (line : Line) :
    ((checkDefinition level line).map (·.rule)).Nodup ∧
      (keywordBleed? line = none ∨ fusedSize? line = none) ∧
      (∀ issue ∈ checkDefinition level line, issue.rule = "D_SPEC_TRAILING_PERIOD" →
        (if continuesName line.raw then periodBeforeMarker? line else trailingPeriod? line) =
          some issue) ∧
      ¬("D_SPEC_POINTER_POSITION" ∈ (checkDefinition level line).map (·.rule) ∧
        "D_SPEC_SIZE_FIELD" ∈ (checkDefinition level line).map (·.rule)) := by
  refine ⟨?_, keywordBleed?_or_fusedSize? line, fun issue h hrule =>
    eq_some_of_rule_trailingPeriod h hrule, ?_⟩
  · rw [checkDefinition_eq_flatMap]
    split
    · exact List.nodup_nil
    · exact rulesOnce_flatMap (namesOnly_lineParts level line) (rulesOnce_lineParts level line)
        (nodup_rules_lineParts level line)
  · -- both findings would be that of the one check of the field
    rintro ⟨hpointer, hsize⟩
    obtain ⟨pointer, hmem, hrule⟩ := List.mem_map.mp hpointer
    obtain ⟨size, hmem', hrule'⟩ := List.mem_map.mp hsize
    have heq := (sizeField?_eq_some hmem (by simp [hrule])).symm.trans
      (sizeField?_eq_some hmem' (by simp [hrule']))
    rw [Option.some.inj heq, hrule'] at hrule
    exact absurd hrule (by decide)

end RpgLint
