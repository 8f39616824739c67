import RpgLint.Proofs.Line.Statistics

/-!
# Comments and continuation lines

A line goes on with an earlier one by a marker in column 7 or by a blank key field.  The asterisk of
a comment is no marker, and the key fields begin in column 7, where it leaves none of them blank.
Only that of a calculation, the first factor, stands further to the right.  So a calculation that is
commented out counts as a continuation line when it has no first factor, and a source can have more
continuation lines than lines of code.

## Main definitions

* `Line.isIdleCalculation` — the comments that are continuation lines.
* `Line.countsAsCode` — the lines that are counted as code.

## Main results

* `detectContinuation?_eq_marker_iff`, `detectContinuation?_eq_blankField_iff` — the two ways to go
  on.
* `Line.continuesStatement_of_isComment` — no comment goes on with a statement.
* `continuations_le_code_iff` — when there are no more continuation lines than lines of code.
-/

namespace RpgLint

/-! ### The two ways to go on -/

theorem SpecType.isFixed_of_keyField? {spec : SpecType} {key : Span}
    (h : spec.keyField? = some key) :
    spec.isFixed = true := by
  cases spec with
  | control | free | comment | unknown => cases h
  | _ => rfl

section

variable {spec : SpecType} {raw : String}

theorem detectContinuation?_eq_marker_iff :
    detectContinuation? spec raw = some .marker ↔
      spec.isFixed = true ∧ (charAt? raw 6 = some '-' ∨ charAt? raw 6 = some '+') := by
  unfold detectContinuation?
  cases spec.isFixed with
  | false => simp
  | true =>
    by_cases hmarker : charAt? raw 6 = some '-' ∨ charAt? raw 6 = some '+'
    · simp [hmarker]
    · -- without a marker only a blank key field is left
      have hnone : (charAt? raw 6 == some '-' || charAt? raw 6 == some '+') = false := by
        simpa using hmarker
      cases spec.keyField? <;> simp [hnone, hmarker]

theorem detectContinuation?_eq_blankField_iff :
    detectContinuation? spec raw = some .blankField ↔
      ¬(charAt? raw 6 = some '-' ∨ charAt? raw 6 = some '+') ∧
        ∃ key ∈ spec.keyField?, key.fits raw = true ∧ key.isBlank raw = true := by
  unfold detectContinuation?
  cases hkey : spec.keyField? with
  | none => simp
  | some key =>
    have hfixed := SpecType.isFixed_of_keyField? hkey
    -- a marker comes first, and then the key field is not read
    by_cases hmarker : charAt? raw 6 = some '-' ∨ charAt? raw 6 = some '+'
    · simp [hfixed, hmarker]
    · have hnone : (charAt? raw 6 == some '-' || charAt? raw 6 == some '+') = false := by
        simpa using hmarker
      simp [hfixed, hnone, hmarker]

/-- A line without a letter in column 6 goes on with nothing. -/
theorem isFixed_of_detectContinuation? (h : (detectContinuation? spec raw).isSome) :
    spec.isFixed = true := by
  obtain ⟨kind, hkind⟩ := Option.isSome_iff_exists.mp h
  cases kind with
  | marker => exact (detectContinuation?_eq_marker_iff.mp hkind).1
  | blankField =>
    obtain ⟨-, key, hkey, -⟩ := detectContinuation?_eq_blankField_iff.mp hkind
    exact SpecType.isFixed_of_keyField? hkey

/-- A blank field holds nothing but blanks. -/
theorem Span.isBlank_of_charAt? {span : Span} (h : span.isBlank raw = true) {i : Nat} {c : Char}
    (hat : charAt? raw i = some c) (hstart : span.start ≤ i) (hstop : i < span.stop) :
    RpgLint.isBlank c = true := by
  have htext : (span.text raw).toList[i - span.start]? = some c := by
    rw [text, slice, String.toList_ofList, List.getElem?_drop, Nat.add_sub_cancel' hstart,
      List.getElem?_take_of_lt hstop]
    exact hat
  exact List.all_eq_true.mp h c (List.mem_of_getElem? htext)

end

/-! ### Comments -/

namespace Line

/-- A calculation out of use that reaches the first factor and leaves it blank. -/
def isIdleCalculation (line : Line) : Bool :=
  line.isComment && line.spec == .calculation && Field.factor1.fits line.raw &&
    Field.factor1.isBlank line.raw

/-- A line that is counted as code: neither a comment nor blank. -/
def countsAsCode (line : Line) : Bool := !line.isComment && !line.isBlank

section

variable {number : Nat} {raw : String}

/-- The key field that a comment leaves blank is the first factor of a calculation. -/
theorem spec_of_blank_key (hcomment : charAt? raw 6 = some '*') {spec : SpecType} {key : Span}
    (hkey : spec.keyField? = some key) (hblank : key.isBlank raw = true) :
    spec = .calculation ∧ key = Field.factor1 := by
  have hcolumn : ¬(key.start ≤ 6 ∧ 6 < key.stop) := by
    rintro ⟨hstart, hstop⟩
    have hasterisk := Span.isBlank_of_charAt? hblank hcomment hstart hstop
    exact absurd hasterisk (by decide)
  -- all other key fields begin in column 7
  cases spec with
  | control | free | comment | unknown => cases hkey
  | calculation => exact ⟨rfl, (Option.some.inj hkey).symm⟩
  | _ =>
    obtain rfl := Option.some.inj hkey
    exact absurd (by decide) hcolumn

/-- **The comments that are continuation lines.** -/
theorem isComment_and_isContinuation_iff :
    (classify number raw).isComment = true ∧ (classify number raw).isContinuation = true ↔
      (classify number raw).isIdleCalculation = true := by
  simp only [isIdleCalculation, isContinuation, isComment_classify, continuation_classify,
    spec_classify, raw_classify, Bool.and_eq_true, beq_iff_eq, and_assoc]
  refine and_congr_right fun hcomment => ?_
  -- the asterisk of a comment stands where a marker would
  have hmarker : ¬(charAt? raw 6 = some '-' ∨ charAt? raw 6 = some '+') := by simp [hcomment]
  constructor
  · -- the key field is blank, and the asterisk is in none that begins in column 7
    intro hcontinues
    obtain ⟨kind, hkind⟩ := Option.isSome_iff_exists.mp hcontinues
    cases kind with
    | marker => exact absurd (detectContinuation?_eq_marker_iff.mp hkind).2 hmarker
    | blankField =>
      obtain ⟨-, key, hkey, hfits, hblank⟩ := detectContinuation?_eq_blankField_iff.mp hkind
      obtain ⟨hspec, rfl⟩ := spec_of_blank_key hcomment hkey hblank
      exact ⟨hspec, hfits, hblank⟩
  · -- without a marker the blank factor is what counts
    rintro ⟨hspec, hfits, hblank⟩
    have hkind : detectContinuation? (detectSpec raw) raw = some .blankField :=
      detectContinuation?_eq_blankField_iff.mpr
        ⟨hmarker, Field.factor1, by rw [hspec]; rfl, hfits, hblank⟩
    rw [hkind]
    rfl

/-- **No comment goes on with a statement.**  The blank first factor of a calculation does not
count. -/
theorem continuesStatement_of_isComment (h : (classify number raw).isComment = true) :
    (classify number raw).continuesStatement = false := by
  rw [isComment_classify, beq_iff_eq] at h
  unfold continuesStatement
  rw [continuation_classify, spec_classify]
  split
  · -- a marker would stand where the asterisk is
    next hkind =>
    have hmarker := (detectContinuation?_eq_marker_iff.mp hkind).2
    simp [h] at hmarker
  · -- the blank field is that of a calculation, which begins a statement of its own
    next hkind =>
    obtain ⟨-, key, hkey, -, hblank⟩ := detectContinuation?_eq_blankField_iff.mp hkind
    rw [(spec_of_blank_key h hkey hblank).1]
    rfl
  · rfl

/-- A continuation line is not blank: it has a letter in column 6. -/
theorem isBlank_of_isContinuation (h : (classify number raw).isContinuation = true) :
    (classify number raw).isBlank = false := by
  rw [isContinuation, continuation_classify] at h
  obtain ⟨letter, hat, hspec⟩ := exists_letter_of_isFixed raw (isFixed_of_detectContinuation? h)
  rw [isBlank, trimmed, raw_classify]
  exact trim_ne_empty hat (SpecType.not_isBlank_of_ofLetter? hspec)

end

end Line

/-! ### Counts -/

/-- Those that have a property have another one as well, or not. -/
theorem countP_eq_add {α : Type} (p q : α → Bool) (as : List α) :
    as.countP p = as.countP (fun a => p a && q a) + as.countP fun a => p a && !q a := by
  rw [List.countP_eq_countP_filter_add as p q, List.countP_filter, List.countP_filter]

namespace LineStatistics

/-- What is left of all lines is counted as code. -/
theorem code_eq_countP {lines : List Line} (h : ∀ line ∈ lines, line.Separate) :
    (of lines).code = lines.countP Line.countsAsCode := by
  have htotal : (of lines).total = lines.countP Line.isComment +
      lines.countP (fun line => !line.isComment) := by
    have hlength := List.length_eq_countP_add_countP (l := lines) Line.isComment
    simp only [Bool.not_eq_true, Bool.decide_eq_false] at hlength
    exact hlength
  -- blank lines are never comments, so they are counted among the other lines
  have hempty : (of lines).empty = lines.countP fun line => !line.isComment && line.isBlank := by
    refine List.countP_congr fun line hline => ?_
    cases hcomment : line.isComment with
    | false => simp
    | true => simp [h line hline hcomment]
  have hrest := countP_eq_add (fun line => !line.isComment) Line.isBlank lines
  have hsum := code_add_comments_add_empty h
  have hcomments : (of lines).comments = lines.countP Line.isComment := rfl
  unfold Line.countsAsCode
  omega

variable (source : String)

/-- The continuation lines of a source are lines of code or comments. -/
theorem continuations_eq :
    (of (classify source)).continuations =
      (classify source).countP (fun line => line.countsAsCode && line.isContinuation) +
        (classify source).countP Line.isIdleCalculation := by
  show (classify source).countP Line.isContinuation = _
  rw [countP_eq_add Line.isContinuation Line.isComment, Nat.add_comm]
  congr 1
  · -- a continuation line that is no comment is code: it is not blank
    refine List.countP_congr fun line hline => ?_
    have hblank : line.isContinuation = true → line.isBlank = false := by
      obtain ⟨number, raw, rfl⟩ := exists_classify_of_mem hline
      exact Line.isBlank_of_isContinuation
    rw [Line.countsAsCode]
    cases hcontinues : line.isContinuation with
    | false => simp
    | true => simp [hblank hcontinues]
  · -- the comments among them
    refine List.countP_congr fun line hline => ?_
    obtain ⟨number, raw, rfl⟩ := exists_classify_of_mem hline
    rw [Bool.and_eq_true, and_comm, Line.isComment_and_isContinuation_iff]

/-- The lines of code of a source are continuation lines or not. -/
theorem code_eq :
    (of (classify source)).code =
      (classify source).countP (fun line => line.countsAsCode && line.isContinuation) +
        (classify source).countP fun line => line.countsAsCode && !line.isContinuation := by
  rw [← countP_eq_add]
  refine code_eq_countP fun line hline => ?_
  obtain ⟨number, raw, rfl⟩ := exists_classify_of_mem hline
  exact Line.separate_classify number raw

end LineStatistics

/-- **Comments among the continuation lines.**  A comment is a continuation line exactly when it is
a calculation that reaches the first factor and leaves it blank.  So a source has no more
continuation lines than lines of code exactly when it has no more comments of that kind than lines
of code that continue nothing. -/
theorem continuations_le_code_iff (number : Nat) (raw source : String) :
    ((Line.classify number raw).isComment = true ∧
      (Line.classify number raw).isContinuation = true ↔
      (Line.classify number raw).isIdleCalculation = true) ∧
    ((LineStatistics.of (classify source)).continuations ≤
      (LineStatistics.of (classify source)).code ↔
      (classify source).countP Line.isIdleCalculation ≤
        (classify source).countP fun line => line.countsAsCode && !line.isContinuation) := by
  refine ⟨Line.isComment_and_isContinuation_iff, ?_⟩
  rw [LineStatistics.continuations_eq, LineStatistics.code_eq]
  exact Nat.add_le_add_iff_left

/-- A calculation that is commented out, with nothing in columns 12 to 25. -/
theorem commented_calculation_continues :
    ¬((∀ (number : Nat) (raw : String), (Line.classify number raw).isComment = true →
        (Line.classify number raw).continuation = none) ∨
      ∀ source : String, (LineStatistics.of (classify source)).continuations ≤
        (LineStatistics.of (classify source)).code) := by
  have hcomment : (Line.classify 1 "     C*                  EVAL      total = 0").isComment =
      true := by decide
  have hcontinues : (Line.classify 1 "     C*                  EVAL      total = 0").continuation ≠
      none := by decide
  have hcounts :
      ¬(LineStatistics.of (classify "     C*                  EVAL      total = 0")).continuations ≤
        (LineStatistics.of (classify "     C*                  EVAL      total = 0")).code := by
    decide
  rintro (hnone | hle)
  · exact hcontinues (hnone 1 _ hcomment)
  · exact hcounts (hle _)

end RpgLint
