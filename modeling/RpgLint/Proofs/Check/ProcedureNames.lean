import RpgLint.Proofs.Check.ContinuedNames
import RpgLint.Proofs.Check.Order

/-!
# Names of procedures and where procedures begin

Column 24 is read in two ways.  The tracking of procedures takes a letter there for the mark of a
beginning only if the name on the line does not go on in the next line; the check of names takes it
for one in any case.  So the name of a procedure is checked where a procedure begins, and besides on
the lines where a long name happens to have the letter in that column.

## Main definitions

* `Line.HidesBegin` — a long name that goes on in the next line has the letter in column 24.

## Main results

* `Line.hasBeginLetter_iff` — the letter that the check of names looks for.
* `exists_nameIn?_of_continuesName` — a name that goes on in the next line is read.
* `Line.opens_iff_forall_step` — the lines behind which a procedure is always open.
* `procedure_names_at_openings_iff` — when the name of a procedure is checked only where one begins.
-/

namespace RpgLint

/-! ### The letter in column 24 -/

/-- A field of one column that holds no blank. -/
theorem Span.extract?_single_eq_some_iff {i : ℕ} {raw value : String} :
    (Span.single i).extract? raw = some value ↔
      ∃ c, charAt? raw i = some c ∧ RpgLint.isBlank c = false ∧ value = String.ofList [c] := by
  -- the field holds the character at its position, if the line reaches it
  have htext : ((Span.single i).text raw).toList = (charAt? raw i).toList := by
    rw [Span.text, slice, String.toList_ofList, charAt?]
    show (raw.toList.take (i + 1)).drop i = _
    rw [List.drop_take, Nat.add_sub_cancel_left, List.take_one, List.head?_drop]
  rw [Span.extract?]
  simp only [trim, htext]
  cases charAt? raw i with
  | none => simp [Chars.trim, Chars.dropStart, Chars.dropEnd]
  | some c =>
    cases hc : RpgLint.isBlank c with
    | true => simp [Chars.trim, Chars.dropStart, Chars.dropEnd, hc]
    | false =>
      have hkept : Chars.trim [c] = [c] := by simp [Chars.trim, Chars.dropStart, Chars.dropEnd, hc]
      simp [hkept, hc, @eq_comm _ value]

namespace Line

variable {line : Line}

/-- The letter that begins a procedure, in either case. -/
theorem hasBeginLetter_iff :
    line.hasBeginLetter = true ↔
      line.spec = .procedure ∧ ∃ c ∈ ['B', 'b'], charAt? line.raw 23 = some c := by
  -- in capitals, both letters are the one that is asked for
  have hupper : ∀ c : Char, upper (String.ofList [c]) = "B" ↔ c ∈ ['B', 'b'] := by
    intro c
    have hletter : c.toUpper = 'B' ↔ c = 'b' ∨ c = 'B' := toUpper_eq_iff (by decide) (by decide)
    rw [upper, String.toList_ofList, List.map_singleton, ← String.toList_inj, String.toList_ofList,
      List.mem_pair, or_comm, ← hletter]
    simp
  unfold hasBeginLetter field?
  by_cases hspec : line.spec = .procedure
  · rw [if_pos hspec, and_iff_right hspec]
    cases hvalue : Field.beginEnd.extract? line.raw with
    | none =>
      refine iff_of_false Bool.false_ne_true ?_
      rintro ⟨c, hc, hat⟩
      have hblank : RpgLint.isBlank c = false := by
        rcases List.mem_pair.mp hc with rfl | rfl <;> decide
      have hsome := Span.extract?_single_eq_some_iff.mpr ⟨c, hat, hblank, rfl⟩
      rw [show Span.single 23 = Field.beginEnd from rfl, hvalue] at hsome
      cases hsome
    | some value =>
      obtain ⟨c, hat, -, rfl⟩ := Span.extract?_single_eq_some_iff.mp hvalue
      simp only [beq_iff_eq, hupper]
      constructor
      · exact fun hc => ⟨c, hc, hat⟩
      · rintro ⟨d, hd, hat'⟩
        rwa [Option.some.inj (hat.symm.trans hat')]
  · rw [if_neg hspec]
    exact iff_of_false Bool.false_ne_true fun h => hspec h.1

/-- A long name that goes on in the next line has the letter that begins a procedure in column
24. -/
structure HidesBegin (line : Line) : Prop where
  /-- The line is code. -/
  code : line.isCode
  /-- It is of type `P`. -/
  procedure : line.spec = .procedure
  /-- Its name goes on in the next line. -/
  continues : continuesName line.raw = true
  /-- The letter stands in column 24. -/
  letter : ∃ c ∈ ['B', 'b'], charAt? line.raw 23 = some c

/-- A line of type `P` is code unless it is a comment. -/
theorem isCode_of_procedure (hspec : line.spec = .procedure) : line.isCode = !line.isComment := by
  simp [isCode, hspec]

/-- **Where the name of a procedure is checked**: where a procedure begins, and where a long name
hides the letter. -/
theorem hasCheckedName_iff {level : Level} (hlevel : Level.standard ≤ level)
    (hspec : line.spec = .procedure) :
    line.hasCheckedName level = true ↔ line.Opens ∨ line.HidesBegin := by
  -- from the standard level on, only the letter is asked for
  have hchecked : line.hasCheckedName level = true ↔
      line.isCode ∧ ∃ c ∈ ['B', 'b'], charAt? line.raw 23 = some c := by
    have hstandard := Level.atLeastStandard_iff.mpr hlevel
    rw [isCode_of_procedure hspec, hasCheckedName, hspec]
    simp only [hstandard, Bool.true_and, Bool.and_eq_true, hasBeginLetter_iff, hspec, true_and]
  rw [hchecked]
  constructor
  · rintro ⟨hcode, c, hc, hat⟩
    cases hname : continuesName line.raw with
    | false =>
      -- the whole name stands on the line, so the letter is a mark
      have hreaches : 24 ≤ line.length := (List.getElem?_eq_some_iff.mp hat).1
      exact .inl ⟨hcode, hspec, hname, hreaches, c, hc, hat⟩
    | true => exact .inr ⟨hcode, hspec, hname, c, hc, hat⟩
  · rintro (h | h)
    · exact ⟨h.code, h.letter⟩
    · exact ⟨h.code, h.letter⟩

theorem HidesBegin.not_opens (h : line.HidesBegin) : ¬ line.Opens := by
  intro hopens
  have hcontinues := h.continues
  rw [hopens.wholeName] at hcontinues
  cases hcontinues

/-- **Where a procedure begins**: the lines behind which one is open, whatever stands in front of
them. -/
theorem opens_iff_forall_step :
    line.Opens ↔ ∀ state : OrderState, (state.step line).1.inProcedure = true := by
  simp only [OrderState.step_inProcedure, insideProcedureAfter_iff]
  constructor
  · exact fun h _ => .inl h
  · intro h
    rcases h {} with hopens | ⟨-, hinside⟩
    · exact hopens
    · cases hinside

end Line

/-! ### The name that goes on -/

/-- A name that goes on in the next line is read when something else than a blank or a period stands
in its columns. -/
theorem exists_nameIn?_of_continuesName {span : Span} {raw : String} {c : Char} {i : ℕ}
    (hname : continuesName raw = true) (hat : charAt? raw i = some c) (hstart : span.start ≤ i)
    (hi : i < 80) (hblank : isBlank c = false) (hperiod : c ≠ '.') :
    ∃ name, nameIn? span raw = some name := by
  -- the code area is the text in front of the three periods and these
  obtain ⟨front, hfront⟩ := continuesName_iff.mp hname
  rw [← toList_codeArea] at hfront
  have harea : (front ++ "...".toList)[i]? = some c := by
    rw [hfront, toList_codeArea]
    refine Chars.getElem?_dropEnd ?_ hblank
    rw [List.getElem?_take_of_lt hi]
    exact hat
  -- the character is none of the three periods
  have hlt : i < front.length := by
    by_contra hge
    rw [List.getElem?_append_right (by omega)] at harea
    have hmem : c ∈ "...".toList := List.mem_of_getElem? harea
    exact hperiod (by simpa using hmem)
  rw [List.getElem?_append_left hlt] at harea
  have hmem : c ∈ front.drop span.start := by
    rw [List.mem_iff_getElem?]
    exact ⟨i - span.start, by rw [List.getElem?_drop, Nat.add_sub_cancel' hstart, harea]⟩
  obtain ⟨before, behind, hsplit⟩ := List.append_of_mem hmem
  -- the name without the periods keeps the character
  have htext : (trim (sliceFrom (codeArea raw) span.start)).toList =
      (Chars.dropStart isBlank before ++ c :: behind) ++ "...".toList := by
    rw [trim, sliceFrom, String.toList_ofList, String.toList_ofList, ← hfront,
      List.drop_append_of_le_length (by omega), hsplit, List.append_assoc, List.cons_append,
      Chars.trim, Chars.dropStart_append_cons hblank]
    have hlast : isBlank '.' = false := by decide
    have hend := Chars.dropEnd_append_cons hlast
      (Chars.dropStart isBlank before ++ c :: (behind ++ "..".toList)) []
    simpa [Chars.dropEnd] using hend
  have hstem : ∀ cs : List Char, (cs ++ "...".toList).dropLast.dropLast.dropLast = cs := by simp
  have hends : endsWith (trim (sliceFrom (codeArea raw) span.start)) "..." = true := by
    rw [endsWith, htext, List.isSuffixOf_iff_suffix]
    exact List.suffix_append _ _
  have hkept : Chars.dropEnd isBlank (Chars.dropStart isBlank before ++ c :: behind) ≠ [] := by
    rw [Chars.dropEnd_append_cons hblank]
    simp
  unfold nameIn?
  rw [hname, if_pos rfl]
  dsimp only
  rw [if_pos hends, htext, hstem, trimEnd, String.toList_ofList]
  exact ⟨_, if_neg (by simpa using hkept)⟩

theorem Line.HidesBegin.exists_name {line : Line} (h : line.HidesBegin) :
    ∃ name, line.name? = some name := by
  obtain ⟨c, hc, hat⟩ := h.letter
  have hletter : RpgLint.isBlank c = false ∧ c ≠ '.' := by
    rcases List.mem_pair.mp hc with rfl | rfl <;> decide
  have hkey : SpecType.procedure.keyField? = some Field.procedureName := rfl
  have hstart : Field.procedureName.start ≤ 23 := by decide
  rw [Line.name?, h.procedure, hkey, Option.bind_some]
  exact exists_nameIn?_of_continuesName h.continues hat hstart (by omega) hletter.1 hletter.2

/-! ### Findings on names of procedures -/

theorem rule_of_mem_checkProcedureName {level : Level} {line : Line} {name : String} :
    ∀ issue ∈ checkProcedureName level line name, startsWith issue.rule "PROC_NAME_" = true := by
  have hrules : ∀ rule ∈
      ["PROC_NAME_INVALID_CHARS", "PROC_NAME_STARTS_WITH_DIGIT", "PROC_NAME_VERB_PREFIX",
        "PROC_NAME_CASE_STYLE"], startsWith rule "PROC_NAME_" = true := by decide
  intro issue hissue
  refine hrules issue.rule ?_
  simp only [checkProcedureName, List.mem_append, List.mem_ite_nil_right,
    List.mem_singleton] at hissue
  obtain ((⟨-, rfl⟩ | ⟨-, rfl⟩) | ⟨-, rfl⟩) | ⟨-, rfl⟩ := hissue <;>
    simp [nameIssue, Issue.rule_atSpan]

/-- What is found on a line of type `P`. -/
theorem checkLineName_of_procedure {level : Level} {line : Line} (hspec : line.spec = .procedure) :
    checkLineName level line =
      if line.hasCheckedName level then (line.name?.map (checkProcedureName level line)).getD []
      else [] := by
  unfold checkLineName Line.hasCheckedName Line.name?
  rw [hspec]
  cases line.isComment <;> simp [SpecType.keyField?]

/-- **When the name of a procedure is checked only where one begins.**  On the lines of type `P` the
check is applied where a procedure begins and where a long name that goes on hides the letter, and
there a name is always read.  So it is applied only where the tracking of procedures opens one
exactly if no letter is hidden, and what it finds is on such lines only exactly if a name that hides
the letter has no fault. -/
theorem procedure_names_at_openings_iff {level : Level} (hlevel : Level.standard ≤ level)
    {source : String} {line : Line} (hline : line ∈ classify source)
    (hspec : line.spec = .procedure) :
    checkLineName level line =
        (if line.hasCheckedName level then (line.name?.map (checkProcedureName level line)).getD []
          else []) ∧
      (line.hasCheckedName level = true ↔ line.Opens ∨ line.HidesBegin) ∧
      (line.Opens ↔ ∀ state : OrderState, (state.step line).1.inProcedure = true) ∧
      ((line.hasCheckedName level = true → line.name?.isSome →
          ∀ state : OrderState, (state.step line).1.inProcedure = true) ↔ ¬ line.HidesBegin) ∧
      ((∀ issue ∈ checkNames level (classify source), issue.line = line.number →
          startsWith issue.rule "PROC_NAME_" = true →
            ∀ state : OrderState, (state.step line).1.inProcedure = true) ↔
        (line.HidesBegin → ∀ name ∈ line.name?, Name.Passes level name .procedure)) := by
  have hchecked := Line.hasCheckedName_iff hlevel hspec
  have hopens : line.Opens ↔ ∀ state : OrderState, (state.step line).1.inProcedure = true :=
    Line.opens_iff_forall_step
  refine ⟨checkLineName_of_procedure hspec, hchecked, hopens, ?_, ?_⟩
  · rw [← hopens, hchecked]
    constructor
    · intro happlied hhides
      obtain ⟨name, hname⟩ := hhides.exists_name
      exact hhides.not_opens (happlied (.inr hhides) (hname ▸ rfl))
    · exact fun hnot h _ => h.resolve_right hnot
  · -- numbers tell the lines of a source apart
    have hnamed : ∀ issue, issue ∈ checkLineName level line ↔
        issue ∈ checkNames level (classify source) ∧ issue.line = line.number := by
      intro issue
      rw [← filter_line_checkNames (nodup_number_classify source) hline level, List.mem_filter,
        beq_iff_eq]
    rw [← hopens]
    constructor
    · -- a fault of a hidden name is found where nothing opens
      intro hfound hhides name hname
      rw [← checkProcedureName_eq_nil_iff level line, List.eq_nil_iff_forall_not_mem]
      intro issue hissue
      have hmem : issue ∈ checkLineName level line := by
        rw [checkLineName_of_procedure hspec, if_pos (hchecked.mpr (.inr hhides)),
          Option.mem_def.mp hname]
        exact hissue
      obtain ⟨hlisted, hnumber⟩ := (hnamed issue).mp hmem
      exact hhides.not_opens
        (hfound issue hlisted hnumber (rule_of_mem_checkProcedureName issue hissue))
    · intro hpasses issue hissue hnumber _
      by_contra hnot
      -- nothing is found on a line that does not open a procedure
      have hnone : checkLineName level line = [] := by
        rw [checkLineName_eq_nil_iff, hchecked, hspec]
        exact fun h => hpasses (h.resolve_left hnot)
      have hmem := (hnamed issue).mpr ⟨hissue, hnumber⟩
      rw [hnone] at hmem
      cases hmem

/-- A long name with the letter in column 24 that has no fault. -/
theorem procedure_names_at_openings_validate :
    (Line.classify 1 "     PvalidateCustomersBalance...").HidesBegin ∧
      ∀ issue ∈ checkNames .standard (classify "     PvalidateCustomersBalance..."),
        issue.line = 1 → startsWith issue.rule "PROC_NAME_" = true →
          ∀ state : OrderState,
            (state.step (Line.classify 1 "     PvalidateCustomersBalance...")).1.inProcedure =
              true := by
  have hline : Line.classify 1 "     PvalidateCustomersBalance..." ∈
      classify "     PvalidateCustomersBalance..." := by decide
  have hhides : (Line.classify 1 "     PvalidateCustomersBalance...").HidesBegin :=
    ⟨by decide, by decide, by decide, 'B', by decide, by decide⟩
  have hname : (Line.classify 1 "     PvalidateCustomersBalance...").name? =
      some "validateCustomersBalance" := by decide
  have hlevel : Level.standard ≤ Level.standard := by decide
  refine ⟨hhides, (procedure_names_at_openings_iff hlevel hline (by decide)).2.2.2.2.mpr ?_⟩
  intro _ name hmem
  obtain rfl : "validateCustomersBalance" = name := Option.some.inj (hname.symm.trans hmem)
  rw [← checkProcedureName_eq_nil_iff .standard
    (Line.classify 1 "     PvalidateCustomersBalance...")]
  decide

/-- A letter of a long name is taken for the mark of a beginning. -/
theorem letter_of_name_taken_for_begin :
    ¬∀ (level : Level) (source : String), Level.standard ≤ level → ∀ line ∈ classify source,
      line.spec = .procedure → ∀ issue ∈ checkNames level (classify source),
        issue.line = line.number → startsWith issue.rule "PROC_NAME_" = true →
          ∀ state : OrderState, (state.step line).1.inProcedure = true := by
  intro h
  have hfound : ∃ issue ∈ checkNames .standard (classify "     PcustomerAccountIsBlocked..."),
      issue.line = 1 ∧ startsWith issue.rule "PROC_NAME_" = true := by decide
  obtain ⟨issue, hissue, hnumber, hrule⟩ := hfound
  have hopen := h .standard _ (by decide)
    (Line.classify 1 "     PcustomerAccountIsBlocked...") (by decide) (by decide) issue hissue
    hnumber hrule {}
  revert hopen
  decide

end RpgLint
