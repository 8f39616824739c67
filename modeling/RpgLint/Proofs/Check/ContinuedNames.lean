import RpgLint.Proofs.Check.Findings
import RpgLint.Proofs.Line.Continuation

/-!
# Names on continuation lines

A line that continues another introduces no name, but the check of names looks for one all the same.
Where column 7 marks the continuation, the marker is read as the first character of a name, and it
does not belong in one.  Where the field of the name is blank, nothing is read, unless the line ends
with three periods: then the text in front of them is read, wherever it begins.

## Main definitions

* `Line.hasCheckedName` — the lines whose names are checked at a level.
* `Name.Passes` — the names without fault, for each type of line.
* `nameBehind?` — the name that is read behind a blank field.

## Main results

* `checkLineName_eq_nil_iff` — when nothing is found in the name of a line.
* `nameIn?_of_leading`, `nameIn?_of_isBlank` — the name that is read on a continuation line.
* `names_avoid_continuation_iff` — when nothing is found on a continuation line.
-/

namespace RpgLint

/-! ### Names without fault -/

/-- The name is checked on a line of the type, at the level. -/
def Line.hasCheckedName (level : Level) (line : Line) : Bool :=
  !line.isComment && match line.spec with
    | .definition => true
    | .procedure => level.atLeastStandard && line.hasBeginLetter
    | .file => level.isStrict
    | _ => false

/-- The name in the field that names a line of the type. -/
def Line.name? (line : Line) : Option String :=
  line.spec.keyField?.bind fun key => nameIn? key line.raw

namespace Name

/-- There is no fault to find with the name at the level, on a line of the type. -/
def Passes (level : Level) (name : String) : SpecType → Prop
  | .definition =>
    (charLength name = 1 → upper name ∈ loopVariables) ∧ hasInvalid name = false ∧
      startsWithDigit name = false ∧
      (level.isStrict → upper name ∉ reservedWords) ∧
      (level.atLeastStandard → isGeneric name = false) ∧
      (level.isStrict → charLength name ≤ recommendedLength)
  | .procedure =>
    hasInvalid name = false ∧ startsWithDigit name = false ∧
      (3 < charLength name → startsWithVerb name) ∧
      (level.isStrict → 1 < charLength name → hasCaseStyle name)
  | .file => hasInvalid name = false
  | _ => True

end Name

section

variable (level : Level) (line : Line) (name : String)

theorem checkVariableName_eq_nil_iff :
    checkVariableName level line name = [] ↔ Name.Passes level name .definition := by
  simp [checkVariableName, Name.Passes]

theorem checkProcedureName_eq_nil_iff :
    checkProcedureName level line name = [] ↔ Name.Passes level name .procedure := by
  simp [checkProcedureName, Name.Passes, and_assoc]

theorem checkFileName_eq_nil_iff : checkFileName line name = [] ↔ Name.Passes level name .file := by
  simp [checkFileName, Name.Passes]

end

/-- **Nothing is found in the name of a line** exactly when it is not checked, there is none, or it
has no fault. -/
theorem checkLineName_eq_nil_iff (level : Level) (line : Line) :
    checkLineName level line = [] ↔
      (line.hasCheckedName level = true → ∀ name ∈ line.name?,
        Name.Passes level name line.spec) := by
  -- without a name there is nothing to ask of it
  have hname : ∀ {f : String → List Issue} {p : String → Prop} (name? : Option String),
      (∀ name, f name = [] ↔ p name) →
      ((name?.map f).getD [] = [] ↔ ∀ name ∈ name?, p name) := by
    intro f p name? hf
    cases name? <;> simp [hf]
  unfold checkLineName Line.hasCheckedName Line.name?
  cases hcomment : line.isComment
  · cases hspec : line.spec with
    | definition =>
      simpa [SpecType.keyField?] using hname _ (checkVariableName_eq_nil_iff level line)
    | procedure =>
      have hchecked :=
        hname (nameIn? Field.procedureName line.raw) (checkProcedureName_eq_nil_iff level line)
      simp [SpecType.keyField?, hchecked]
    | file =>
      have hchecked := hname (nameIn? Field.fileName line.raw) (checkFileName_eq_nil_iff level line)
      simp [SpecType.keyField?, hchecked]
    | _ => simp
  · simp

/-! ### The name that is read -/

/-- A name is read without three periods at its end, and keeps its first character if that is no
period. -/
theorem exists_stem {c : Char} (hperiod : c ≠ '.') (cs : List Char) :
    ∃ rest, (if endsWith (String.ofList (c :: cs)) "..." then
        String.ofList (String.ofList (c :: cs)).toList.dropLast.dropLast.dropLast
      else String.ofList (c :: cs)) = String.ofList (c :: rest) := by
  split
  · next hends =>
    simp only [endsWith, List.isSuffixOf_iff_suffix, String.toList_ofList,
      List.suffix_cons_iff] at hends
    obtain hall | ⟨front, rfl⟩ := hends
    · -- the three periods alone would begin with a period
      exact absurd (List.cons.inj hall).1.symm hperiod
    · have hthree : ∀ cs : List Char, (cs ++ "...".toList).dropLast.dropLast.dropLast = cs := by
        simp
      rw [String.toList_ofList]
      exact ⟨front, congrArg String.ofList (hthree (c :: front))⟩
  · exact ⟨cs, rfl⟩

/-- A field that begins with a character, and not with a period, is read as a name that begins with
it. -/
theorem nameIn?_of_leading {span : Span} {raw : String} {c : Char}
    (hat : charAt? raw span.start = some c) (hblank : isBlank c = false) (hperiod : c ≠ '.')
    (hspan : span.start < span.stop) (hstop : span.stop ≤ 80) :
    ∃ rest, nameIn? span raw = some (String.ofList (c :: rest)) := by
  -- trimming stops at the character, so that it is still in front
  have hkeep : ∀ {cs : List Char}, cs[span.start]? = some c →
      ∃ rest, Chars.trim (cs.drop span.start) = c :: rest := by
    intro cs hcs
    obtain ⟨hlt, rfl⟩ := List.getElem?_eq_some_iff.mp hcs
    rw [List.drop_eq_getElem_cons hlt, Chars.trim_cons hblank]
    exact ⟨_, rfl⟩
  have htake : ∀ {n : Nat}, span.start < n → (raw.toList.take n)[span.start]? = some c := by
    intro n hn
    rw [List.getElem?_take_of_lt hn]
    exact hat
  -- either way of reading takes the character with it
  obtain ⟨text, hwritten⟩ : ∃ text,
      (if continuesName raw then some (trim (sliceFrom (codeArea raw) span.start))
      else span.extract? raw) = some (String.ofList (c :: text)) := by
    split
    · obtain ⟨text, htext⟩ :=
        hkeep (Chars.getElem?_dropEnd (htake (Nat.lt_of_lt_of_le hspan hstop)) hblank)
      rw [← toList_codeArea] at htext
      exact ⟨text, by rw [trim, sliceFrom, String.toList_ofList, htext]⟩
    · obtain ⟨text, htext⟩ := hkeep (htake hspan)
      refine ⟨text, Span.extract?_of_trim ?_ (List.cons_ne_nil c text)⟩
      rw [Span.text, slice, String.toList_ofList, htext]
  obtain ⟨stem, hstem⟩ := exists_stem hperiod text
  unfold nameIn?
  rw [hwritten]
  dsimp only
  rw [hstem, trimEnd, String.toList_ofList, ← List.nil_append (c :: stem),
    Chars.dropEnd_append_cons hblank]
  exact ⟨_, if_neg (by simp)⟩

/-- The name that is read behind a blank field: the text in front of three periods that end the code
area. -/
def nameBehind? (span : Span) (raw : String) : Option String :=
  let text := trim (slice raw span.stop 80)
  if endsWith text "..." then
    let name := trimEnd (String.ofList text.toList.dropLast.dropLast.dropLast)
    if name.isEmpty then none else some name
  else none

section

variable {span : Span} {raw : String} {i : Nat} {letter : Char} (hstart : span.start = i + 1)
  (hat : charAt? raw i = some letter) (hspan : span.start ≤ span.stop) (hstop : span.stop ≤ 80)

include hstart hat

/-- The columns in front of a field end with a letter. -/
theorem take_start_eq : raw.toList.take span.start = raw.toList.take i ++ [letter] := by
  obtain ⟨hi, rfl⟩ := List.getElem?_eq_some_iff.mp hat
  rw [hstart, List.take_succ_eq_append_getElem hi]

include hspan hstop

/-- The code columns: what stands in front of a letter, the letter, the field behind it, and the
rest. -/
theorem take_code_eq : raw.toList.take 80 =
    raw.toList.take i ++ letter :: ((span.text raw).toList ++ (slice raw span.stop 80).toList) := by
  have hfield := List.take_append_drop span.start (raw.toList.take span.stop)
  have hrest := List.take_append_drop span.stop (raw.toList.take 80)
  rw [List.take_take, Nat.min_eq_left hspan, take_start_eq hstart hat] at hfield
  rw [List.take_take, Nat.min_eq_left hstop, ← hfield] at hrest
  rw [← hrest, Span.text, slice, slice, String.toList_ofList, String.toList_ofList,
    List.append_assoc, List.append_assoc, List.singleton_append]

variable (hsolid : isBlank letter = false)

include hsolid

/-- The code area behind a letter: the field and the rest. -/
theorem drop_codeArea_eq : (codeArea raw).toList.drop span.start =
    Chars.dropEnd isBlank ((span.text raw).toList ++ (slice raw span.stop 80).toList) := by
  have hlength : (raw.toList.take i ++ [letter]).length = span.start := by
    rw [← take_start_eq hstart hat, List.length_take, hstart]
    exact Nat.min_eq_left (List.getElem?_eq_some_iff.mp hat).1
  rw [toList_codeArea, take_code_eq hstart hat hspan hstop, Chars.dropEnd_append_cons hsolid,
    List.append_cons, List.drop_left' hlength]

/-- **Behind a blank field a name is read only in front of three periods.**  The letter in front of
the field is not one of them. -/
theorem nameIn?_of_isBlank (hperiod : letter ≠ '.') (hblank : span.isBlank raw = true) :
    nameIn? span raw = nameBehind? span raw := by
  have hmarker : letter ∉ "...".toList := by simpa using hperiod
  have hwhole : ∀ c ∈ "...".toList, isBlank c = false := by simp [isBlank, inRuns, blankRuns]
  have hfield : ∀ b ∈ (span.text raw).toList, isBlank b = true := List.all_eq_true.mp hblank
  have htext : trim (sliceFrom (codeArea raw) span.start) = trim (slice raw span.stop 80) := by
    rw [trim, sliceFrom, String.toList_ofList, drop_codeArea_eq hstart hat hspan hstop hsolid,
      Chars.trim_dropEnd, Chars.trim_blanks_append hfield, trim]
  -- the periods stand behind the letter, and in a blank field there are none
  have hends : continuesName raw = endsWith (trim (slice raw span.stop 80)) "..." := by
    rw [Bool.eq_iff_iff, continuesName_iff, take_code_eq hstart hat hspan hstop,
      Chars.dropEnd_append_cons hsolid, Chars.suffix_append_cons_iff hmarker,
      Chars.suffix_dropEnd_iff hwhole, Chars.trim_blanks_append hfield, endsWith,
      List.isSuffixOf_iff_suffix, trim]
    simp only [String.toList_ofList]
  unfold nameIn? nameBehind?
  dsimp only
  rw [htext, ← hends, Span.extract?_of_isBlank hblank]
  cases hname : continuesName raw
  · rfl
  · rw [hname] at hends
    simp [← hends]

end

/-- The beginning of a literal, taken for a name. -/
example : nameIn? Field.definitionName "     D                'wait..." = some "'wait" := by decide

/-! ### Continuation lines -/

/-- The name that is read behind the blank field of a line. -/
def Line.strayName? (line : Line) : Option String :=
  line.spec.keyField?.bind fun key => nameBehind? key line.raw

section

variable {level : Level} {line : Line}

/-- A name is checked in a field that begins in column 7. -/
theorem Line.exists_key_of_hasCheckedName (h : line.hasCheckedName level = true) :
    ∃ key, line.spec.keyField? = some key ∧ key.start = 6 ∧ 6 < key.stop ∧ key.stop ≤ 80 := by
  unfold Line.hasCheckedName at h
  cases hspec : line.spec <;> simp [hspec] at h <;> exact ⟨_, rfl, rfl, by decide, by decide⟩

/-- All of its characters have to belong in a name. -/
theorem Name.hasInvalid_of_passes {name : String} (hchecked : line.hasCheckedName level = true)
    (h : Passes level name line.spec) : hasInvalid name = false := by
  unfold Line.hasCheckedName at hchecked
  cases hspec : line.spec <;> simp [hspec] at hchecked <;> rw [hspec] at h
  · exact h
  · exact h.2.1
  · exact h.1

variable {number : Nat} {raw : String} (hline : line = Line.classify number raw)

include hline

/-- **A marker is read as the first character of a name**, in which it does not belong. -/
theorem exists_invalid_of_marker (hchecked : line.hasCheckedName level = true)
    (hmarker : line.continuation = some .marker) :
    ∃ name ∈ line.name?, Name.hasInvalid name = true := by
  obtain ⟨key, hkey, hstart, hspan, hstop⟩ := Line.exists_key_of_hasCheckedName hchecked
  subst hline
  rw [Line.continuation_classify] at hmarker
  -- both markers are no blanks, no periods, and belong in no name
  obtain ⟨c, hat, hsolid, hperiod, hinvalid⟩ :
      ∃ c, charAt? raw key.start = some c ∧ isBlank c = false ∧ c ≠ '.' ∧
        Name.admits c = false := by
    rw [hstart]
    rcases (detectContinuation?_eq_marker_iff.mp hmarker).2 with hat | hat
    · exact ⟨'-', hat, by decide⟩
    · exact ⟨'+', hat, by decide⟩
  obtain ⟨rest, hname⟩ := nameIn?_of_leading hat hsolid hperiod (hstart ▸ hspan) hstop
  refine ⟨String.ofList (c :: rest), ?_, ?_⟩
  · rw [Line.name?, hkey, Option.bind_some, Line.raw_classify]
    exact hname
  · rw [Name.hasInvalid, String.toList_ofList, List.any_cons, hinvalid]
    rfl

/-- The name on a line with a blank field is the one behind the field. -/
theorem name?_of_blankField (hchecked : line.hasCheckedName level = true)
    (hblank : line.continuation = some .blankField) : line.name? = line.strayName? := by
  obtain ⟨key, hkey, hstart, hspan, hstop⟩ := Line.exists_key_of_hasCheckedName hchecked
  subst hline
  rw [Line.continuation_classify] at hblank
  rw [Line.spec_classify] at hkey
  -- column 6 ends what stands in front of the field
  obtain ⟨letter, hat, hletter⟩ := exists_letter_of_isFixed raw (SpecType.isFixed_of_keyField? hkey)
  have hperiod : letter ≠ '.' := by
    rintro rfl
    have hnone : SpecType.ofLetter? '.' = none := by decide
    rw [hnone] at hletter
    cases hletter
  obtain ⟨-, field, hfield, -, hfieldBlank⟩ := detectContinuation?_eq_blankField_iff.mp hblank
  obtain rfl : key = field := Option.some.inj (hkey.symm.trans hfield)
  have hname := nameIn?_of_isBlank hstart hat (by omega) hstop
    (SpecType.not_isBlank_of_ofLetter? hletter) hperiod hfieldBlank
  rw [Line.name?, Line.strayName?, Line.spec_classify, Line.raw_classify, hkey, Option.bind_some,
    Option.bind_some, hname]

end

section

variable {lines : List Line} (hnumbers : (lines.map Line.number).Nodup) {line : Line}
  (hline : line ∈ lines)

include hnumbers hline

/-- The findings on names that are on one of the lines are those of its own name. -/
theorem filter_line_checkNames (level : Level) :
    (checkNames level lines).filter (·.line == line.number) = checkLineName level line :=
  filter_line_flatMap (fun other => (written_checkLineName level other).line_eq) hnumbers hline

theorem names_avoid_iff (level : Level) :
    (∀ issue ∈ checkNames level lines, issue.line ≠ line.number) ↔
      checkLineName level line = [] := by
  rw [← filter_line_checkNames hnumbers hline level, List.filter_eq_nil_iff]
  simp only [beq_iff_eq, ne_eq]

/-- **What keeps a continuation line free of findings on names.**  Where the names of such lines are
checked, it has to be recognised by its blank field and not by a marker, and if it ends with three
periods, the text in front of them has to pass for a name. -/
theorem names_avoid_continuation_iff {number : Nat} {raw : String}
    (hclassified : line = Line.classify number raw) (hcontinues : line.isContinuation = true)
    (level : Level) :
    (∀ issue ∈ checkNames level lines, issue.line ≠ line.number) ↔
      (line.hasCheckedName level = true →
        line.continuation = some .blankField ∧ ∀ name ∈ line.strayName?,
          Name.Passes level name line.spec) := by
  rw [names_avoid_iff hnumbers hline, checkLineName_eq_nil_iff]
  refine forall_congr' fun hchecked => ?_
  obtain ⟨kind, hkind⟩ := Option.isSome_iff_exists.mp hcontinues
  cases kind with
  | marker =>
    -- the marker is found fault with, and there is no blank field
    obtain ⟨name, hname, hinvalid⟩ := exists_invalid_of_marker hclassified hchecked hkind
    constructor
    · intro hpasses
      rw [Name.hasInvalid_of_passes hchecked (hpasses name hname)] at hinvalid
      cases hinvalid
    · rintro ⟨hblank, -⟩
      rw [hkind] at hblank
      cases hblank
  | blankField =>
    -- only what stands behind the field can be found fault with
    rw [name?_of_blankField hclassified hchecked hkind]
    exact (and_iff_right hkind).symm

end

/-- A definition that goes on without a name. -/
theorem names_avoid_nameless_definition :
    (Line.classify 1 "     D                 S             10I 0").isContinuation = true ∧
      ∀ issue ∈ checkNames .strict (classify "     D                 S             10I 0"),
        issue.line ≠ 1 := by
  have hline : Line.classify 1 "     D                 S             10I 0" ∈
      classify "     D                 S             10I 0" := by decide
  refine ⟨by decide, ?_⟩
  refine (names_avoid_continuation_iff (by decide) hline rfl (by decide) .strict).mpr fun _ => ?_
  have hnone : (Line.classify 1 "     D                 S             10I 0").strayName? =
      none := by decide
  rw [hnone]
  exact ⟨by decide, fun name hname => by cases hname⟩

/-- A literal that goes on behind a marker is taken for a name. -/
theorem marker_taken_for_name :
    ¬∀ (level : Level) (source : String), ∀ line ∈ classify source, line.isContinuation = true →
      ∀ issue ∈ checkNames level (classify source), issue.line ≠ line.number := by
  intro h
  have hfound : ¬∀ issue ∈ checkNames .basic (classify "     D-          'hello'"),
      issue.line ≠ 1 := by decide
  exact hfound (h .basic _ (Line.classify 1 "     D-          'hello'") (by decide) (by decide))

end RpgLint
