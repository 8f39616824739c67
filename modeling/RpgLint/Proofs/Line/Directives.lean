import RpgLint.Proofs.Line.CodeColumns

/-!
# Directives and the letter in column 6

A directive is read behind the blanks that a line begins with, the type of the line in column 6.  So
the line of a directive is code when the directive, or what follows it, puts the letter of a type in
that column and no asterisk behind it.  That happens for few indentations, and a directive that is
indented further than column 6 is never code.

## Main definitions

* `indent` — the number of blanks that a line begins with.
* `Directive.Lettered` — a directive that puts the letter of a type in column 6.

## Main results

* `isCode_classify_iff` — the lines of code among those without the sentinel.
* `isCode_iff_of_directive` — the lines of directives that are code.
-/

namespace RpgLint

/-- The number of blanks that a line begins with. -/
def indent (raw : String) : Nat := (raw.toList.takeWhile isBlank).length

/-- The directive as it is written in capitals. -/
def Directive.word : Directive → String
  | .free => "/FREE"
  | .endFree => "/END-FREE"

/-- The indentations that put a letter of the directive in column 6 that stands for a type: the `F`
of `/FREE`, and the `F` and the `D` of `/END-FREE`. -/
def Directive.letterIndents : Directive → List Nat
  | .free => [4]
  | .endFree => [0, 2]

/-- The line has the letter of a type in column 6 and no asterisk behind it, because of the
directive that it begins with, or because the letter comes right behind a `/FREE` in column 1. -/
def Directive.Lettered (raw : String) (directive : Directive) : Prop :=
  indent raw ∈ directive.letterIndents ∨
    directive = .free ∧ indent raw = 0 ∧
      (∃ letter, charAt? raw 5 = some letter ∧ (SpecType.ofLetter? letter).isSome) ∧
      charAt? raw 6 ≠ some '*'

/-! ### Lines of code -/

theorem SpecType.isFixed_of_ofLetter? {c : Char} {spec : SpecType} (h : ofLetter? c = some spec) :
    spec.isFixed := by
  unfold ofLetter? at h
  split at h
  case h_8 => cases h
  all_goals
    rw [← Option.some.inj h]
    rfl

/-- Code is what is of a fixed type and no comment. -/
theorem Line.isCode_iff (line : Line) :
    line.isCode ↔ line.spec.isFixed ∧ line.isComment = false := by
  cases hspec : line.spec <;> simp [isCode, hspec, SpecType.isFixed, SpecType.orderIndex?]

section

variable {number : Nat} {raw : String}

/-- Without the sentinel, a letter in column 6 tells the type that it stands for. -/
theorem detectSpec_of_letter (h : startsWith (trim raw) "**FREE" = false) {letter : Char}
    {spec : SpecType} (hat : charAt? raw 5 = some letter)
    (hspec : SpecType.ofLetter? letter = some spec) : detectSpec raw = spec := by
  have hne : letter ≠ '*' := by
    rintro rfl
    cases hspec
  unfold detectSpec
  rw [h, if_neg Bool.false_ne_true, show Field.specLetter.start = 5 from rfl, hat]
  simp [hspec]

/-- Without the sentinel, code is a line with the letter of a type in column 6 and no asterisk in
column 7. -/
theorem isCode_classify_iff (h : startsWith (trim raw) "**FREE" = false) :
    (Line.classify number raw).isCode ↔
      (∃ letter, charAt? raw 5 = some letter ∧ (SpecType.ofLetter? letter).isSome) ∧
        charAt? raw 6 ≠ some '*' := by
  rw [Line.isCode_iff, Line.spec_classify, Line.isComment_classify, beq_eq_false_iff_ne]
  refine and_congr_left' ⟨fun hfixed => ?_, ?_⟩
  · -- a fixed type is told by the letter in column 6
    obtain ⟨letter, hat, hletter⟩ := exists_letter_of_isFixed raw hfixed
    exact ⟨letter, hat, Option.isSome_iff_exists.mpr ⟨_, hletter⟩⟩
  · -- a letter that stands for a type tells that type
    rintro ⟨letter, hat, hletter⟩
    obtain ⟨spec, hspec⟩ := Option.isSome_iff_exists.mp hletter
    rw [detectSpec_of_letter h hat hspec]
    exact SpecType.isFixed_of_ofLetter? hspec

/-! ### Lines of directives -/

/-- A directive stands behind the blanks, in either case. -/
theorem word_prefix_of_directive {directive : Directive}
    (h : (Line.classify number raw).directive? = some directive) :
    directive.word.toList <+: (Chars.dropStart isBlank raw.toList).map Char.toUpper := by
  unfold Line.directive? at h
  rw [Line.trimmed, Line.raw_classify] at h
  dsimp only at h
  -- `/END-FREE` is looked for first, and `/FREE` only where it does not stand
  split at h
  · next hend =>
    rw [← Option.some.inj h]
    exact (startsWith_upper_trim raw (by decide)).mp hend
  · split at h
    · next hfree =>
      rw [← Option.some.inj h]
      exact (startsWith_upper_trim raw (by decide)).mp hfree
    · cases h

theorem getElem?_dropStart (raw : String) (i : Nat) :
    (Chars.dropStart isBlank raw.toList)[i]? = charAt? raw (indent raw + i) := by
  calc (raw.toList.dropWhile isBlank)[i]?
      = (raw.toList.takeWhile isBlank ++ raw.toList.dropWhile isBlank)[indent raw + i]? := by
        rw [indent, List.getElem?_append_right (Nat.le_add_right _ _), Nat.add_sub_cancel_left]
    _ = charAt? raw (indent raw + i) := by rw [List.takeWhile_append_dropWhile, charAt?]

theorem getElem?_of_prefix {α : Type} {few many : List α} (h : few <+: many) {i : Nat} {a : α}
    (ha : few[i]? = some a) : many[i]? = some a := by
  obtain ⟨hi, rfl⟩ := List.getElem?_eq_some_iff.mp ha
  exact List.prefix_iff_getElem?.mp h i hi

section

variable {directive : Directive} (h : (Line.classify number raw).directive? = some directive)

include h

/-- Each character of a directive stands behind the blanks, in either case. -/
theorem exists_charAt?_of_directive {i : Nat} {c : Char} (hc : directive.word.toList[i]? = some c) :
    ∃ d, charAt? raw (indent raw + i) = some d ∧ d.toUpper = c := by
  have hmap := getElem?_of_prefix (word_prefix_of_directive h) hc
  rw [List.getElem?_map, Option.map_eq_some_iff] at hmap
  obtain ⟨d, hd, hupper⟩ := hmap
  exact ⟨d, (getElem?_dropStart raw i).symm.trans hd, hupper⟩

/-- A line with a directive is not the sentinel. -/
theorem not_sentinel_of_directive : startsWith (trim raw) "**FREE" = false := by
  rw [Bool.eq_false_iff, ne_eq, startsWith_trim raw (by decide)]
  intro hsentinel
  -- what follows the blanks would be a slash and an asterisk at once
  have hslash : directive.word.toList[0]? = some '/' := by cases directive <;> rfl
  obtain ⟨d, hd, hupper⟩ := exists_charAt?_of_directive h hslash
  have hstar := getElem?_of_prefix hsentinel (show "**FREE".toList[0]? = some '*' from rfl)
  rw [getElem?_dropStart, hd, Option.some.injEq] at hstar
  rw [hstar] at hupper
  exact absurd hupper (by decide)

/-- No character of a directive is an asterisk. -/
theorem charAt?_ne_asterisk_of_directive {i j : Nat} (hi : i < directive.word.toList.length)
    (hj : indent raw + i = j) :
    charAt? raw j ≠ some '*' := by
  obtain ⟨d, hd, hupper⟩ := exists_charAt?_of_directive h (List.getElem?_eq_getElem hi)
  rw [← hj, hd, ne_eq, Option.some.injEq]
  rintro rfl
  have hnone : Char.toUpper '*' ∉ directive.word.toList := by cases directive <;> decide
  exact hnone (hupper ▸ List.getElem_mem hi)

/-- A directive that reaches column 6 has a letter there, or none. -/
theorem letter_iff_of_directive {i : Nat} (hi : i < directive.word.toList.length)
    (hcolumn : indent raw + i = 5) :
    (∃ letter, charAt? raw 5 = some letter ∧ (SpecType.ofLetter? letter).isSome) ↔
      (SpecType.ofLetter? directive.word.toList[i]).isSome := by
  obtain ⟨d, hd, hupper⟩ := exists_charAt?_of_directive h (List.getElem?_eq_getElem hi)
  -- letters of types are read in either case, and the word is kept in capitals
  have hcapitals : directive.word.toList.all (fun c => c.toUpper == c) := by
    cases directive <;> decide
  have hcapital := beq_iff_eq.mp (List.all_eq_true.mp hcapitals _ (List.getElem_mem hi))
  have hsame : SpecType.ofLetter? d = SpecType.ofLetter? directive.word.toList[i] := by
    rw [SpecType.ofLetter?, SpecType.ofLetter?, hupper, hcapital]
  rw [hcolumn] at hd
  simp [hd, hsame]

/-- **The lines of directives that are code.** -/
theorem isCode_iff_of_directive : (Line.classify number raw).isCode ↔ directive.Lettered raw := by
  rw [isCode_classify_iff (not_sentinel_of_directive h), Directive.Lettered]
  rcases Nat.lt_or_ge 5 (indent raw) with hdeep | hshallow
  · -- column 6 is one of the blanks in front of the directive
    have hindents : ∀ n ∈ directive.letterIndents, n ≤ 5 := by cases directive <;> decide
    constructor
    · rintro ⟨⟨letter, hat, hletter⟩, -⟩
      obtain ⟨spec, hspec⟩ := Option.isSome_iff_exists.mp hletter
      exact absurd (Chars.length_takeWhile_le hat (SpecType.not_isBlank_of_ofLetter? hspec))
        (Nat.not_le.mpr hdeep)
    · rintro (hmem | ⟨-, hzero, -⟩)
      · exact absurd (hindents _ hmem) (Nat.not_le.mpr hdeep)
      · omega
  · obtain ⟨i, hi⟩ : ∃ i, indent raw + i = 5 := ⟨5 - indent raw, by omega⟩
    rcases Nat.lt_or_ge i directive.word.toList.length with hreach | hshort
    · -- the directive reaches column 6, and column 7 too if it has a letter there
      have htable : ∀ i (hi : i < directive.word.toList.length), i ≤ 5 →
          ((SpecType.ofLetter? directive.word.toList[i]).isSome ↔ 5 - i ∈ directive.letterIndents) ∧
            (5 - i ∈ directive.letterIndents → i + 1 < directive.word.toList.length) := by
        cases directive <;> decide
      obtain ⟨hletter, hmarker⟩ := htable i hreach (by omega)
      rw [letter_iff_of_directive h hreach hi, hletter, show indent raw = 5 - i by omega]
      constructor
      · exact fun hcode => .inl hcode.1
      · rintro (hmem | ⟨rfl, hzero, -⟩)
        · exact ⟨hmem, charAt?_ne_asterisk_of_directive h (hmarker hmem) (by omega)⟩
        · exact absurd hreach (by simp [Directive.word]; omega)
    · -- only `/FREE` in column 1 does not
      cases directive with
      | free =>
        have hzero : indent raw = 0 := by simp [Directive.word] at hshort; omega
        simp [hzero, Directive.letterIndents]
      | endFree => exact absurd hshort (by simp [Directive.word]; omega)

end

end

/-- Behind two blanks, `/END-FREE` has the letter of a definition in column 6. -/
example : (Line.classify 1 "  /END-FREE").directive? = some .endFree ∧
    (Line.classify 1 "  /END-FREE").spec = .definition := by decide

end RpgLint
