import RpgLint.Proofs.Line.FrontColumns
import RpgLint.Proofs.Text.Trimming

/-!
# The code columns of a line

Columns 81 and beyond of a line of a fixed type are an area for comments.  All fields end before it,
so that a field reads the same when the area is cut off, and so do the directive and the blankness
of a classified line: the letter in column 6 stands in front of it.

## Main definitions

* `codeColumns` — columns 1 to 80.
* `Line.cropped` — a line of a fixed type without its comment area.
* `Line.Lettered` — the lines whose type is told by a letter in column 6.

## Main results

* `Line.charAt?_cropped`, `Line.extract?_cropped` and the others — fields of a cropped line.
* `Line.directive?_cropped`, `Line.isBlank_cropped` — what is read of the whole line.
-/

namespace RpgLint

/-- Columns 1 to 80. -/
def codeColumns (raw : String) : String := slice raw 0 80

section

variable (raw : String)

@[simp] theorem toList_codeColumns : (codeColumns raw).toList = raw.toList.take 80 := by
  simp [codeColumns, slice]

/-- Cutting off the comment area keeps the code columns. -/
theorem agreeBefore_codeColumns : AgreeBefore 80 (codeColumns raw) raw := by
  rw [AgreeBefore, toList_codeColumns, List.take_take, Nat.min_self]

theorem charAt?_codeColumns {i : Nat} (h : i < 80) :
    charAt? (codeColumns raw) i = charAt? raw i :=
  (agreeBefore_codeColumns raw).charAt?_eq h

@[simp] theorem codeArea_codeColumns : codeArea (codeColumns raw) = codeArea raw :=
  (agreeBefore_codeColumns raw).codeArea_eq (Nat.le_refl 80)

end

theorem toList_codeArea (raw : String) :
    (codeArea raw).toList = Chars.dropEnd isBlank (raw.toList.take 80) := by
  rw [codeArea, trimEnd, String.toList_ofList, slice, String.toList_ofList, List.drop_zero]

theorem continuesName_iff {raw : String} :
    continuesName raw = true ↔ "...".toList <:+ Chars.dropEnd isBlank (raw.toList.take 80) := by
  rw [continuesName, endsWith, List.isSuffixOf_iff_suffix, toList_codeArea]

/-! ### Cropped lines -/

namespace Line

/-- The line without its comment area, if it is of a fixed type. -/
def cropped (line : Line) : Line :=
  if line.spec.isFixed then { line with raw := codeColumns line.raw } else line

section

variable (line : Line)

@[simp] theorem number_cropped : line.cropped.number = line.number := by
  unfold cropped
  split <;> rfl

@[simp] theorem spec_cropped : line.cropped.spec = line.spec := by
  unfold cropped
  split <;> rfl

@[simp] theorem isComment_cropped : line.cropped.isComment = line.isComment := by
  unfold cropped
  split <;> rfl

@[simp] theorem continuation_cropped : line.cropped.continuation = line.continuation := by
  unfold cropped
  split <;> rfl

theorem cropped_of_not_fixed {line : Line} (h : line.spec.isFixed = false) :
    line.cropped = line := by
  simp [cropped, h]

theorem raw_cropped_of_fixed {line : Line} (h : line.spec.isFixed) :
    line.cropped.raw = codeColumns line.raw := by
  simp [cropped, h]

theorem raw_cropped : line.cropped.raw = codeColumns line.raw ∨ line.cropped.raw = line.raw := by
  cases h : line.spec.isFixed with
  | false => exact Or.inr (congrArg raw (cropped_of_not_fixed h))
  | true => exact Or.inl (raw_cropped_of_fixed h)

/-! ### What is read of the columns -/

/-- A cropped line keeps its code columns. -/
theorem agreeBefore_cropped : AgreeBefore 80 line.cropped.raw line.raw := by
  rcases line.raw_cropped with hraw | hraw <;> rw [hraw]
  · exact agreeBefore_codeColumns line.raw
  · exact Eq.refl _

theorem charAt?_cropped {i : Nat} (h : i < 80) : charAt? line.cropped.raw i = charAt? line.raw i :=
  line.agreeBefore_cropped.charAt?_eq h

theorem le_charLength_cropped {n : Nat} (h : n ≤ 80) :
    n ≤ charLength line.cropped.raw ↔ n ≤ charLength line.raw :=
  line.agreeBefore_cropped.le_charLength_iff h

@[simp] theorem codeArea_cropped : codeArea line.cropped.raw = codeArea line.raw :=
  line.agreeBefore_cropped.codeArea_eq (Nat.le_refl 80)

@[simp] theorem continuesName_cropped :
    continuesName line.cropped.raw = continuesName line.raw := by
  rw [continuesName, codeArea_cropped, continuesName]

section

variable {span : Span} (h : span.stop ≤ 80)

include h

theorem text_cropped : span.text line.cropped.raw = span.text line.raw :=
  line.agreeBefore_cropped.text_eq h

theorem extract?_cropped : span.extract? line.cropped.raw = span.extract? line.raw :=
  line.agreeBefore_cropped.extract?_eq h

theorem fits_cropped : span.fits line.cropped.raw = span.fits line.raw :=
  line.agreeBefore_cropped.fits_eq h

theorem field?_cropped (spec : SpecType) :
    line.cropped.field? spec span = line.field? spec span := by
  rw [field?, spec_cropped, line.extract?_cropped h, field?]

end

@[simp] theorem isCode_cropped : line.cropped.isCode = line.isCode := by simp [isCode]

@[simp] theorem isFixedCode_cropped : line.cropped.isFixedCode = line.isFixedCode := by
  simp [isFixedCode]

@[simp] theorem hasMarker_cropped : line.cropped.hasMarker = line.hasMarker := by simp [hasMarker]

@[simp] theorem isContinuation_cropped : line.cropped.isContinuation = line.isContinuation := by
  simp [isContinuation]

@[simp] theorem continuesStatement_cropped :
    line.cropped.continuesStatement = line.continuesStatement := by
  simp [continuesStatement]

end

end Line

/-! ### What is read of the whole line -/

/-- Capitals stand 32 places in front of the small letters. -/
theorem toNat_toUpper (c : Char) :
    c.toUpper.toNat = if 97 ≤ c.toNat ∧ c.toNat ≤ 122 then c.toNat - 32 else c.toNat := by
  have hsmall : (c.val ≥ 'a'.val ∧ c.val ≤ 'z'.val) ↔ 97 ≤ c.toNat ∧ c.toNat ≤ 122 := by
    rw [ge_iff_le, UInt32.le_iff_toNat_le, UInt32.le_iff_toNat_le]
    rfl
  unfold Char.toUpper
  split
  · next hc =>
    have hbounds := hsmall.mp hc
    have hdistance : ((65 : UInt32) - 97).toNat = 2 ^ 32 - 32 := by decide
    -- the distance is added as a number of 32 bits, which runs over
    rw [if_pos hbounds]
    show (c.val + (65 - 97)).toNat = c.toNat - 32
    rw [UInt32.toNat_add, Char.toNat_val, hdistance]
    omega
  · next hc => rw [if_neg (mt hsmall.mpr hc)]

/-- A capital is the upper case of itself and of its small letter. -/
theorem toUpper_eq_iff {c small capital : Char} (hsmall : 97 ≤ small.toNat ∧ small.toNat ≤ 122)
    (hcapital : small.toUpper = capital) : c.toUpper = capital ↔ c = small ∨ c = capital := by
  rw [← hcapital, ← Char.toNat_inj, ← Char.toNat_inj, ← Char.toNat_inj, toNat_toUpper,
    toNat_toUpper, if_pos hsmall]
  split <;> omega

/-- Blanks have no case. -/
theorem toUpper_of_isBlank {c : Char} (h : isBlank c = true) : c.toUpper = c := by
  obtain ⟨run, hrun, hin⟩ := List.any_eq_true.mp h
  rw [Bool.and_eq_true, decide_eq_true_eq, decide_eq_true_eq] at hin
  -- only `a` to `z` change, and they lie in none of the runs
  have hruns : ∀ run ∈ blankRuns, run.2 < 97 ∨ 122 < run.1 := by decide
  rw [← Char.toNat_inj, toNat_toUpper, if_neg]
  rcases hruns run hrun with hbelow | habove <;> omega

/-- A word without blanks begins a list as it begins the list without the blanks at its end, also
when the characters are changed but for the blanks. -/
theorem prefix_map_dropEnd_iff {f : Char → Char} (hf : ∀ c, isBlank c = true → f c = c)
    {word : List Char} (hword : word.any isBlank = false) (cs : List Char) :
    word <+: (Chars.dropEnd isBlank cs).map f ↔ word <+: cs.map f := by
  obtain ⟨rest, hsplit, hrest⟩ := Chars.dropEnd_append isBlank cs
  generalize Chars.dropEnd isBlank cs = kept at hsplit ⊢
  -- what is cut off at the end is blank, and stays blank
  rw [hsplit, List.map_append]
  constructor
  · exact fun h => h.trans (List.prefix_append _ _)
  · intro h
    rcases List.prefix_or_prefix_of_prefix h (List.prefix_append _ _) with hkept | ⟨tail, htail⟩
    · exact hkept
    · -- what goes beyond the kept text would be blank
      rw [← htail, List.prefix_append_right_inj] at h
      cases tail with
      | nil =>
        rw [List.append_nil] at htail
        exact htail ▸ List.prefix_rfl
      | cons c tail =>
        obtain ⟨blank, hblank, hsame⟩ := List.mem_map.mp (h.subset List.mem_cons_self)
        rw [hf blank (hrest blank hblank)] at hsame
        have hnot :=
          List.any_eq_false.mp hword c (htail ▸ List.mem_append_right _ List.mem_cons_self)
        rw [← hsame] at hnot
        exact absurd (hrest blank hblank) hnot

/-- A word without blanks begins a trimmed text, in any case, when it stands behind the leading
blanks. -/
theorem startsWith_upper_trim (s : String) {word : String}
    (hword : word.toList.any isBlank = false) :
    startsWith (upper (trim s)) word ↔
      word.toList <+: (Chars.dropStart isBlank s.toList).map Char.toUpper := by
  simp only [startsWith, upper, trim, String.toList_ofList, List.isPrefixOf_iff_prefix, Chars.trim]
  exact prefix_map_dropEnd_iff (fun _ => toUpper_of_isBlank) hword _

/-- A word without blanks begins a trimmed text when it stands behind the leading blanks. -/
theorem startsWith_trim (s : String) {word : String} (hword : word.toList.any isBlank = false) :
    startsWith (trim s) word ↔ word.toList <+: Chars.dropStart isBlank s.toList := by
  have h :=
    prefix_map_dropEnd_iff (f := id) (fun _ _ => rfl) hword (Chars.dropStart isBlank s.toList)
  simp only [startsWith, trim, String.toList_ofList, List.isPrefixOf_iff_prefix, Chars.trim]
  rwa [List.map_id, List.map_id] at h

/-- A word without blanks begins a trimmed text in front of a character that is neither blank nor in
the word, and of the blanks there. -/
theorem startsWith_trim_of_split {s word : String} (hword : word.toList.any isBlank = false)
    {front blanks tail : List Char} {c : Char} (hs : s.toList = front ++ blanks ++ c :: tail)
    (hblanks : ∀ b ∈ blanks, isBlank b = true) (hc : isBlank c = false) (hmem : c ∉ word.toList) :
    startsWith (trim s) word ↔ startsWith (trim (String.ofList front)) word := by
  have hfront : trim (String.ofList (front ++ blanks)) = trim (String.ofList front) := by
    rw [trim, trim, String.toList_ofList, String.toList_ofList, Chars.trim_append_blanks hblanks]
  rw [← hfront, startsWith_trim _ hword, startsWith_trim _ hword, hs, String.toList_ofList,
    Chars.dropStart_append_cons hc, Chars.prefix_append_cons_iff hmem]

/-- A text with a character that is not blank is not empty when it is trimmed. -/
theorem trim_ne_empty {s : String} {i : Nat} {c : Char} (hat : charAt? s i = some c)
    (hc : isBlank c = false) : (trim s).isEmpty = false := by
  rw [isEmpty_trim, Bool.eq_false_iff]
  intro hblank
  rw [List.all_eq_true.mp hblank c (List.mem_of_getElem? hat)] at hc
  cases hc

/-- A line of a fixed type has a character in column 6 that is not blank. -/
def Line.Lettered (line : Line) : Prop :=
  line.spec.isFixed → ∃ letter, charAt? line.raw 5 = some letter ∧ RpgLint.isBlank letter = false

/-- No blank stands for a type. -/
theorem SpecType.not_isBlank_of_ofLetter? {c : Char} {spec : SpecType}
    (h : ofLetter? c = some spec) :
    isBlank c = false := by
  by_contra hblank
  rw [Bool.not_eq_false] at hblank
  have hupper := toUpper_of_isBlank hblank
  unfold ofLetter? at h
  split at h
  -- the last branch is that of all other letters, which stand for no type
  case h_8 => cases h
  all_goals
    next hletter =>
      rw [hupper] at hletter
      subst hletter
      exact absurd hblank (by decide)

/-! ### Classified lines -/

/-- A text of a fixed type shows the letter of the type in column 6. -/
theorem exists_letter_of_isFixed (raw : String) (h : (detectSpec raw).isFixed) :
    ∃ letter, charAt? raw 5 = some letter ∧ SpecType.ofLetter? letter = some (detectSpec raw) := by
  unfold detectSpec at h ⊢
  split at h
  · cases h
  · rw [show Field.specLetter.start = 5 from rfl] at h ⊢
    split at h
    · cases h
    · cases h
    · -- neither the sentinel nor an asterisk, so that the letter decides
      next hfree _ letter _ hat =>
      rw [if_neg hfree, hat]
      refine ⟨letter, rfl, ?_⟩
      cases hspec : SpecType.ofLetter? letter with
      | none =>
        rw [hspec] at h
        cases h
      | some spec => rfl

section

variable (number : Nat) (raw : String)

@[simp] theorem Line.number_classify : (Line.classify number raw).number = number := by
  simp only [Line.classify]

@[simp] theorem Line.spec_classify : (Line.classify number raw).spec = detectSpec raw := by
  simp only [Line.classify]

@[simp] theorem Line.isComment_classify :
    (Line.classify number raw).isComment = (charAt? raw 6 == some '*') := by
  simp only [Line.classify]

@[simp] theorem Line.continuation_classify :
    (Line.classify number raw).continuation = detectContinuation? (detectSpec raw) raw := by
  simp only [Line.classify]

@[simp] theorem Line.raw_classify : (Line.classify number raw).raw = raw := by
  simp only [Line.classify]

theorem Line.trimmed_classify : (Line.classify number raw).trimmed = trim raw := by
  rw [Line.trimmed, Line.raw_classify]

/-- **The record of a classified line** is read off its text, field by field, as the type lays them
out. -/
theorem Line.record?_classify :
    (Line.classify number raw).record? = (detectSpec raw).fields?.map fun fields =>
      fields.map fun (name, span) => (name, span.extract? raw) := by
  rw [Line.record?, Line.spec_classify, Line.raw_classify]

/-- The checks, which read one field of a line at a time, read what its record holds. -/
theorem Line.record?_eq_map_field? (line : Line) :
    line.record? = line.spec.fields?.map fun fields =>
      fields.map fun (name, span) => (name, line.field? line.spec span) := by
  simp only [Line.record?, Line.field?, if_true]

/-- Classified lines of a fixed type have a letter in column 6. -/
theorem Line.lettered_classify : (Line.classify number raw).Lettered := by
  unfold Line.Lettered
  rw [Line.spec_classify, Line.raw_classify]
  intro hfixed
  obtain ⟨letter, hat, hspec⟩ := exists_letter_of_isFixed raw hfixed
  exact ⟨letter, hat, SpecType.not_isBlank_of_ofLetter? hspec⟩

end

/-- A line of a source, at its position. -/
theorem exists_classify_of_getElem? {source : String} {n : Nat} {line : Line}
    (h : (classify source)[n]? = some line) : ∃ raw, line = Line.classify (n + 1) raw := by
  rw [classify, List.getElem?_mapIdx, Option.map_eq_some_iff] at h
  obtain ⟨cs, -, rfl⟩ := h
  exact ⟨_, rfl⟩

theorem exists_classify_of_mem {source : String} {line : Line} (h : line ∈ classify source) :
    ∃ number raw, line = Line.classify number raw := by
  obtain ⟨n, hat⟩ := List.mem_iff_getElem?.mp h
  obtain ⟨raw, hraw⟩ := exists_classify_of_getElem? hat
  exact ⟨n + 1, raw, hraw⟩

theorem lettered_of_mem_classify {source : String} {line : Line} (h : line ∈ classify source) :
    line.Lettered := by
  obtain ⟨number, raw, rfl⟩ := exists_classify_of_mem h
  exact Line.lettered_classify _ _

/-- The continuation of a line is told by its code columns. -/
theorem detectContinuation?_codeColumns (spec : SpecType) (raw : String) :
    detectContinuation? spec (codeColumns raw) = detectContinuation? spec raw := by
  have hkey : ∀ key ∈ spec.keyField?, key.stop ≤ 80 := by
    cases spec <;> simp [SpecType.keyField?] <;> decide
  exact (agreeBefore_codeColumns raw).detectContinuation?_eq (by decide) hkey

/-- The type of a line with a letter in column 6 is told by its first eleven columns: the sentinel
has to begin in front of the letter, or there. -/
theorem detectSpec_eq_of_agreeBefore {n : Nat} {raw other : String} {letter : Char}
    (hat : charAt? raw 5 = some letter) (hletter : isBlank letter = false) (hn : 11 ≤ n)
    (h : AgreeBefore n raw other) :
    detectSpec raw = detectSpec other := by
  -- the sentinel begins no later than the letter, and ends within the first columns
  have hfront : ∀ s, charAt? s 5 = some letter →
      (startsWith (trim s) "**FREE" ↔ "**FREE".toList <+: (s.toList.take n).dropWhile isBlank) := by
    intro s hs
    have hblanks : (s.toList.takeWhile isBlank).length ≤ 5 := Chars.length_takeWhile_le hs hletter
    have hroom : "**FREE".toList.length ≤ n - (s.toList.takeWhile isBlank).length := by
      have hword : "**FREE".toList.length = 6 := rfl
      omega
    rw [startsWith_trim s (by decide), Chars.dropWhile_take, List.prefix_take_iff]
    exact (and_iff_left hroom).symm
  have hcolumn : charAt? raw Field.specLetter.start = charAt? other Field.specLetter.start :=
    h.charAt?_eq (Nat.lt_of_lt_of_le (by decide) hn)
  have hsentinel : startsWith (trim raw) "**FREE" = startsWith (trim other) "**FREE" := by
    rw [Bool.eq_iff_iff, hfront raw hat, hfront other (hcolumn ▸ hat), h]
  unfold detectSpec
  rw [hsentinel, hcolumn]

/-- Texts of fixed types that agree in the code columns are classified alike. -/
theorem Line.cropped_classify_eq (number : Nat) {raw other : String}
    (hraw : (detectSpec raw).isFixed) (hother : (detectSpec other).isFixed)
    (h : codeColumns raw = codeColumns other) :
    (Line.classify number raw).cropped = (Line.classify number other).cropped := by
  have hat : ∀ {i : Nat}, i < 80 → charAt? raw i = charAt? other i := by
    intro i hi
    rw [← charAt?_codeColumns raw hi, h, charAt?_codeColumns other hi]
  -- both have a letter in column 6, and it is the same one
  have hspec : detectSpec raw = detectSpec other := by
    obtain ⟨letter, hletter, hdetect⟩ := exists_letter_of_isFixed raw hraw
    obtain ⟨letter', hletter', hdetect'⟩ := exists_letter_of_isFixed other hother
    rw [hat (by decide), hletter', Option.some.injEq] at hletter
    rw [hletter, hdetect, Option.some.injEq] at hdetect'
    exact hdetect'
  have hcontinuation : ∀ spec, detectContinuation? spec raw = detectContinuation? spec other := by
    intro spec
    rw [← detectContinuation?_codeColumns, h, detectContinuation?_codeColumns]
  simp only [Line.cropped, Line.classify, hother, if_true, hat (show 6 < 80 by decide), hspec,
    hcontinuation, h]

/-- Whatever is appended to a line of a fixed type, it stays of that type. -/
theorem detectSpec_append {code : String} (hfixed : (detectSpec code).isFixed)
    (hlength : 11 ≤ charLength code) (remark : String) :
    detectSpec (code ++ remark) = detectSpec code := by
  obtain ⟨letter, hat, hspec⟩ := exists_letter_of_isFixed code hfixed
  have hagree : AgreeBefore (charLength code) code (code ++ remark) := by
    rw [AgreeBefore, String.toList_append, charLength, List.take_left, List.take_length]
  exact (detectSpec_eq_of_agreeBefore hat
    (SpecType.not_isBlank_of_ofLetter? hspec) hlength hagree).symm

namespace Line.Lettered

variable {line : Line} (h : line.Lettered)

include h

/-- The word that begins a line of a fixed type, and is not too long, begins in front of the comment
area. -/
theorem startsWith_cropped {word : String} (hword : word.toList.any RpgLint.isBlank = false)
    (hlength : word.toList.length ≤ 75) :
    startsWith (upper line.cropped.trimmed) word = startsWith (upper line.trimmed) word := by
  cases hfixed : line.spec.isFixed with
  | false => rw [cropped_of_not_fixed hfixed]
  | true =>
    obtain ⟨letter, hat, hletter⟩ := h hfixed
    -- the blanks in front of the word end before the letter
    have hfront : (line.raw.toList.takeWhile RpgLint.isBlank).length ≤ 5 :=
      Chars.length_takeWhile_le hat hletter
    rw [Bool.eq_iff_iff, trimmed, trimmed, startsWith_upper_trim _ hword,
      startsWith_upper_trim _ hword, raw_cropped_of_fixed hfixed, toList_codeColumns,
      Chars.dropStart, Chars.dropWhile_take, List.map_take, List.prefix_take_iff]
    constructor
    · exact And.left
    · exact fun hbegins => ⟨hbegins, by omega⟩

/-- A directive stands in front of the comment area. -/
theorem directive?_cropped : line.cropped.directive? = line.directive? := by
  have hend := @startsWith_cropped line h "/END-FREE" (by decide) (by decide)
  have hfree := @startsWith_cropped line h "/FREE" (by decide) (by decide)
  simp only [directive?, hend, hfree]

theorem insideFreeAfter_cropped (inside : Bool) :
    insideFreeAfter inside line.cropped = insideFreeAfter inside line := by
  unfold insideFreeAfter
  rw [h.directive?_cropped]

/-- A line that is more than its comment area is not blank. -/
theorem isBlank_cropped : line.cropped.isBlank = line.isBlank := by
  cases hfixed : line.spec.isFixed with
  | false => rw [cropped_of_not_fixed hfixed]
  | true =>
    obtain ⟨letter, hat, hletter⟩ := h hfixed
    -- the letter in column 6 is kept
    have hcropped : charAt? line.cropped.raw 5 = some letter := by
      rw [line.charAt?_cropped (by decide), hat]
    rw [isBlank, isBlank, trimmed, trimmed, trim_ne_empty hat hletter,
      trim_ne_empty hcropped hletter]

end Line.Lettered

end RpgLint
