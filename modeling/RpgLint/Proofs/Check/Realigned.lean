import RpgLint.Check.Definition
import RpgLint.Proofs.Line.CodeColumns

/-!
# Realigned lines

A line whose size field holds digits fused with the letter of a data type is realigned by putting
the digits and the letter in columns 33 to 40.  Nothing in front of these columns and nothing behind
them changes, apart from blanks up to column 42, so that all other fields read the same, and so does
the type of the line and its continuation.

## Main definitions

* `Definition.FusedSize` — the lines that are realigned.

## Main results

* `Definition.FusedSize.toList_realign` — the characters of the realigned line.
* `Definition.FusedSize.extract?_realign_front`, `Definition.FusedSize.extract?_realign_behind` —
  its fields.
* `Definition.FusedSize.detectSpec_realign`, `Definition.FusedSize.continuesName_realign` — how it
  is classified.
-/

namespace RpgLint

theorem mem_asciiDigits {c : Char} (h : isAsciiDigit c = true) : c ∈ "0123456789".toList := by
  obtain ⟨hlow, hhigh⟩ := Bool.and_eq_true_iff.mp h
  have hfirst : 48 ≤ c.toNat := UInt32.le_iff_toNat_le.mp (of_decide_eq_true hlow)
  have hlast : c.toNat < 58 :=
    Nat.lt_succ_of_le (UInt32.le_iff_toNat_le.mp (of_decide_eq_true hhigh))
  have hcodes : ∀ n < 58, 48 ≤ n → Char.ofNat n ∈ "0123456789".toList := by decide
  rw [← Char.ofNat_toNat c]
  exact hcodes c.toNat hlast hfirst

/-- What holds of the ten digits. -/
theorem of_isAsciiDigit {c : Char} (h : isAsciiDigit c = true) {p : Char → Bool}
    (hp : "0123456789".toList.all p = true) : p c = true :=
  List.all_eq_true.mp hp c (mem_asciiDigits h)

/-- No digit is blank. -/
theorem isBlank_of_isAsciiDigit {c : Char} (h : isAsciiDigit c = true) : isBlank c = false := by
  have hdigits : "0123456789".toList.all (!isBlank ·) = true := by decide
  simpa using of_isAsciiDigit h hdigits

theorem isBlank_of_mem_replicate {n : Nat} {b : Char} (hb : b ∈ List.replicate n ' ') :
    isBlank b = true := by
  rw [List.eq_of_mem_replicate hb]
  decide

/-! ### Blanks behind a line -/

theorem toList_padRight (width : Nat) (s : String) :
    (padRight width s).toList = s.toList ++ List.replicate (width - s.toList.length) ' ' :=
  String.toList_ofList

/-- A field reads the same when blanks are put behind the line. -/
theorem extract?_padRight (span : Span) (width : Nat) (raw : String) :
    span.extract? (padRight width raw) = span.extract? raw := by
  have hblanks : ∀ b ∈
      ((List.replicate (width - raw.toList.length) ' ').take (span.stop - raw.toList.length)).drop
        (span.start - (raw.toList.take span.stop).length), isBlank b = true :=
    fun _ hb => isBlank_of_mem_replicate (List.mem_of_mem_take (List.mem_of_mem_drop hb))
  have htrim : trim (span.text (padRight width raw)) = trim (span.text raw) := by
    rw [trim, trim, Span.text, Span.text, slice, slice, String.toList_ofList, String.toList_ofList,
      toList_padRight, List.take_append, List.drop_append, Chars.trim_append_blanks hblanks]
  rw [Span.extract?, htrim, Span.extract?]

namespace Definition

/-- The size field of the line holds digits, and the letter of a data type right behind them. -/
structure FusedSize (raw digits : String) (letter : Char) : Prop where
  /-- The field without the blanks around it. -/
  size_eq : Chars.trim (Field.toLength.text raw).toList = digits.toList ++ [letter]
  /-- There are digits. -/
  digits_ne_nil : digits.toList ≠ []
  /-- They are digits. -/
  allDigits : ∀ c ∈ digits.toList, isAsciiDigit c = true
  /-- The letter names a data type. -/
  dataType : letter.toUpper ∈ dataTypeLetters

namespace FusedSize

variable {raw digits : String} {letter : Char} (h : FusedSize raw digits letter)

include h

/-! ### The line and the size in it -/

/-- Digits and letter stand in seven columns. -/
theorem length_digits_lt : digits.toList.length < 7 := by
  have hle := Chars.length_trim_le (Field.toLength.text raw).toList
  -- the field has seven columns, and one is for the letter
  have htext : (Field.toLength.text raw).toList.length ≤ 7 := by
    rw [Span.text, slice, String.toList_ofList, List.length_drop, List.length_take]
    exact Nat.sub_le_of_le_add (Nat.min_le_left _ _)
  rw [h.size_eq, List.length_append, List.length_singleton] at hle
  omega

/-- A line with a size reaches the size field. -/
theorem lt_charLength : 32 < charLength raw := by
  by_contra hshort
  have hnil : (Field.toLength.text raw).toList = [] := by
    rw [Span.text, slice, String.toList_ofList]
    refine List.drop_eq_nil_of_le (Nat.le_trans (List.length_take_le' _ _) ?_)
    exact Nat.le_of_not_lt hshort
  have hsize := h.size_eq
  rw [hnil] at hsize
  exact List.cons_ne_nil _ _ (List.append_eq_nil_iff.mp hsize.symm).2

/-- The letter of a data type is neither a blank nor a period. -/
theorem letter_ne : isBlank letter.toUpper = false ∧ letter.toUpper ≠ '.' := by
  have hletters : dataTypeLetters.all (fun c => !isBlank c && c != '.') = true := by decide
  simpa using List.all_eq_true.mp hletters _ h.dataType

/-- In front of the first digit stand the columns in front of the size field, and blanks. -/
theorem exists_split :
    ∃ blanks digit behind, raw.toList = raw.toList.take 32 ++ blanks ++ digit :: behind ∧
      (∀ b ∈ blanks, isBlank b = true) ∧ isAsciiDigit digit = true := by
  obtain ⟨digit, rest, hdigits⟩ := List.exists_cons_of_ne_nil h.digits_ne_nil
  have hsize := h.size_eq
  rw [hdigits, List.cons_append] at hsize
  obtain ⟨blanks, behind, htext, hblanks, -⟩ := Chars.exists_of_trim_eq_cons hsize
  refine ⟨blanks, digit, behind ++ raw.toList.drop 39, ?_, hblanks,
    h.allDigits digit (hdigits ▸ List.mem_cons_self)⟩
  -- the line reaches the field, so that its columns can be cut there
  have hfield : raw.toList.drop 32 = (Field.toLength.text raw).toList ++ raw.toList.drop 39 := by
    have hreach : 32 ≤ (raw.toList.take 39).length := by
      have hlength := h.lt_charLength
      rw [charLength] at hlength
      rw [List.length_take]
      omega
    have hcut := congrArg (List.drop 32) (List.take_append_drop 39 raw.toList)
    rw [List.drop_append_of_le_length hreach] at hcut
    rw [Span.text, slice, String.toList_ofList]
    exact hcut.symm
  rw [List.append_assoc, ← List.cons_append, ← List.append_assoc blanks, ← htext, ← hfield,
    List.take_append_drop]

/-! ### The characters of the realigned line -/

theorem toList_realign : (realign raw digits letter).toList =
    raw.toList.take 32 ++
      ((padLeft 7 digits).toList ++ letter.toUpper :: (padRight 42 raw).toList.drop 40) := by
  have hfront : (padRight 42 raw).toList.take 32 = raw.toList.take 32 := by
    rw [toList_padRight]
    exact List.take_append_of_le_length (Nat.le_of_lt h.lt_charLength)
  rw [realign, String.toList_ofList, ← hfront, toList_padRight, List.append_assoc,
    List.append_assoc]
  rfl

theorem length_take_raw : (raw.toList.take 32).length = 32 := by
  rw [List.length_take]
  exact Nat.min_eq_left (Nat.le_of_lt h.lt_charLength)

theorem length_padLeft : (padLeft 7 digits).toList.length = 7 := by
  have hlength := h.length_digits_lt
  rw [padLeft, String.toList_ofList, List.length_append, List.length_replicate]
  omega

/-- Nothing changes in front of the size field. -/
theorem agreeBefore_realign : AgreeBefore 32 (realign raw digits letter) raw := by
  rw [AgreeBefore, h.toList_realign,
    List.take_append_of_le_length (Nat.le_of_eq h.length_take_raw.symm), List.take_take,
    Nat.min_self]

/-- Nothing but blanks is added behind the data type. -/
theorem drop_realign :
    (realign raw digits letter).toList.drop 40 = (padRight 42 raw).toList.drop 40 := by
  -- what is rewritten takes up forty columns
  have hfront : (raw.toList.take 32 ++ ((padLeft 7 digits).toList ++ [letter.toUpper])).length =
      40 := by
    rw [List.length_append, List.length_append, h.length_take_raw, h.length_padLeft,
      List.length_singleton]
  rw [h.toList_realign, ← List.singleton_append, ← List.append_assoc (padLeft 7 digits).toList,
    ← List.append_assoc, List.drop_left' hfront]

theorem charLength_realign : charLength (realign raw digits letter) = max (charLength raw) 42 := by
  rw [charLength, h.toList_realign, List.length_append, List.length_append, h.length_take_raw,
    h.length_padLeft, List.length_cons, List.length_drop, toList_padRight, List.length_append,
    List.length_replicate, charLength]
  omega

/-- From column 41 on stand the characters of the line, and blanks as far as it does not go. -/
theorem charAt?_realign {i : Nat} (hi : 40 ≤ i) :
    charAt? (realign raw digits letter) i =
      if i < charLength raw then charAt? raw i else if i < 42 then some ' ' else none := by
  -- nothing but padding has been done to these columns
  have hat : charAt? (realign raw digits letter) i = (padRight 42 raw).toList[i]? := by
    have hdrop := congrArg (·[i - 40]?) h.drop_realign
    simp only [List.getElem?_drop] at hdrop
    rwa [Nat.add_sub_cancel' hi] at hdrop
  rw [hat, toList_padRight, charAt?, charLength]
  split
  · next hin => exact List.getElem?_append_left hin
  · next hout =>
    have hpadded : i - raw.toList.length < 42 - raw.toList.length ↔ i < 42 := by omega
    rw [List.getElem?_append_right (Nat.le_of_not_lt hout), List.getElem?_replicate]
    simp only [hpadded]

/-! ### The fields of the realigned line -/

theorem extract?_realign_front {span : Span} (hspan : span.stop ≤ 32) :
    span.extract? (realign raw digits letter) = span.extract? raw :=
  h.agreeBefore_realign.extract?_eq hspan

theorem extract?_realign_behind {span : Span} (hspan : 40 ≤ span.start) :
    span.extract? (realign raw digits letter) = span.extract? raw := by
  have hbehind := Span.extract?_of_drop_eq (k := 0) h.drop_realign hspan
  rw [Nat.add_zero, Nat.add_zero] at hbehind
  rw [hbehind, extract?_padRight]

theorem text_toLength_realign :
    Field.toLength.text (realign raw digits letter) = padLeft 7 digits := by
  have htext : (Field.toLength.text (realign raw digits letter)).toList =
      (padLeft 7 digits).toList := by
    rw [Span.text, slice, String.toList_ofList, List.drop_take, h.toList_realign]
    rw [show Field.toLength.start = 32 from rfl, List.drop_left' h.length_take_raw]
    exact List.take_left' h.length_padLeft
  rw [← String.ofList_toList (s := Field.toLength.text (realign raw digits letter)), htext,
    String.ofList_toList]

/-- The size field holds the digits. -/
theorem extract?_toLength_realign :
    Field.toLength.extract? (realign raw digits letter) = some digits := by
  have htrim : Chars.trim (Field.toLength.text (realign raw digits letter)).toList =
      digits.toList := by
    rw [h.text_toLength_realign, padLeft, String.toList_ofList,
      Chars.trim_blanks_append fun _ => isBlank_of_mem_replicate,
      Chars.trim_eq_self fun c hc => isBlank_of_isAsciiDigit (h.allDigits c hc)]
  rw [Span.extract?_of_trim htrim h.digits_ne_nil, String.ofList_toList]

theorem charAt?_dataType_realign :
    charAt? (realign raw digits letter) 39 = some letter.toUpper := by
  have hfront : (raw.toList.take 32 ++ (padLeft 7 digits).toList).length = 39 := by
    rw [List.length_append, h.length_take_raw, h.length_padLeft]
  rw [charAt?, h.toList_realign, ← List.append_assoc,
    List.getElem?_append_right (Nat.le_of_eq hfront), hfront]
  rfl

/-- The data type is the letter in upper case. -/
theorem extract?_dataType_realign :
    Field.dataType.extract? (realign raw digits letter) =
      some (String.ofList [letter.toUpper]) := by
  have htext : (Field.dataType.text (realign raw digits letter)).toList = [letter.toUpper] := by
    obtain ⟨hlt, hat⟩ := List.getElem?_eq_some_iff.mp h.charAt?_dataType_realign
    rw [Span.text, slice, String.toList_ofList, List.drop_take]
    rw [show Field.dataType.start = 39 from rfl, List.drop_eq_getElem_cons hlt, hat]
    rfl
  have htrim : Chars.trim (Field.dataType.text (realign raw digits letter)).toList =
      [letter.toUpper] := by
    rw [htext, Chars.trim_eq_self fun c hc => List.mem_singleton.mp hc ▸ h.letter_ne.1]
  exact Span.extract?_of_trim htrim (List.cons_ne_nil _ _)

/-! ### The realigned line among the others -/

/-- A realigned line is of the same type: the sentinel would have to begin in front of the size. -/
theorem detectSpec_realign : detectSpec (realign raw digits letter) = detectSpec raw := by
  -- the sentinel has neither blanks nor digits, and in front of the first digit the lines differ in
  -- blanks only
  have hword : "**FREE".toList.any isBlank = false := by decide
  have hnot : ∀ digit, isAsciiDigit digit = true →
      isBlank digit = false ∧ digit ∉ "**FREE".toList := by
    intro digit hdigit
    have hdigits : "0123456789".toList.all (!"**FREE".toList.contains ·) = true := by decide
    exact ⟨isBlank_of_isAsciiDigit hdigit, by simpa using of_isAsciiDigit hdigit hdigits⟩
  obtain ⟨blanks, digit, behind, hraw, hblanks, hdigit⟩ := h.exists_split
  obtain ⟨first, rest, hdigits⟩ := List.exists_cons_of_ne_nil h.digits_ne_nil
  have hfixed : (realign raw digits letter).toList =
      raw.toList.take 32 ++ List.replicate (7 - digits.toList.length) ' ' ++
        first :: (rest ++ letter.toUpper :: (padRight 42 raw).toList.drop 40) := by
    rw [h.toList_realign, padLeft, String.toList_ofList, hdigits]
    simp only [List.append_assoc, List.cons_append]
  have hfirst := hnot first (h.allDigits first (hdigits ▸ List.mem_cons_self))
  -- both lines go on with a digit behind blanks, so neither shows more of the sentinel
  have hsentinel : startsWith (trim (realign raw digits letter)) "**FREE" =
      startsWith (trim raw) "**FREE" := by
    rw [Bool.eq_iff_iff,
      startsWith_trim_of_split hword hfixed (fun _ => isBlank_of_mem_replicate) hfirst.1 hfirst.2,
      startsWith_trim_of_split hword hraw hblanks (hnot digit hdigit).1 (hnot digit hdigit).2]
  have hcolumn : charAt? (realign raw digits letter) Field.specLetter.start =
      charAt? raw Field.specLetter.start :=
    h.agreeBefore_realign.charAt?_eq (by decide)
  unfold detectSpec
  rw [hsentinel, hcolumn]

theorem detectContinuation?_realign (spec : SpecType) :
    detectContinuation? spec (realign raw digits letter) = detectContinuation? spec raw := by
  have hkey : ∀ key ∈ spec.keyField?, key.stop ≤ 32 := by
    cases spec <;> simp [SpecType.keyField?] <;> decide
  exact h.agreeBefore_realign.detectContinuation?_eq (by decide) hkey

/-- **Realigning makes no long name.**  Three periods at the end of the code area stand behind the
data type, and so they end the code area of the line too. -/
theorem continuesName_realign (hraw : continuesName raw = false) :
    continuesName (realign raw digits letter) = false := by
  obtain ⟨hblank, hperiod⟩ := h.letter_ne
  have hmarker : letter.toUpper ∉ "...".toList := by simpa using hperiod
  rw [Bool.eq_false_iff, ne_eq, continuesName_iff] at hraw ⊢
  refine mt (fun hends => ?_) hraw
  have hcode : (realign raw digits letter).toList.take 80 =
      (raw.toList.take 32 ++ (padLeft 7 digits).toList) ++
        letter.toUpper :: ((padRight 42 raw).toList.drop 40).take 40 := by
    have hfront : (raw.toList.take 32 ++ (padLeft 7 digits).toList).length = 39 := by
      rw [List.length_append, h.length_take_raw, h.length_padLeft]
    rw [h.toList_realign, ← List.append_assoc, List.take_append, hfront,
      List.take_of_length_le (by omega)]
    rfl
  -- behind the data type stand the columns of the line, and blanks
  obtain ⟨blanks, hbehind, hblanks⟩ : ∃ blanks, ((padRight 42 raw).toList.drop 40).take 40 =
      (raw.toList.take 80).drop 40 ++ blanks ∧ ∀ b ∈ blanks, isBlank b = true := by
    refine ⟨((List.replicate (42 - raw.toList.length) ' ').take (80 - raw.toList.length)).drop
      (40 - (raw.toList.take 80).length), ?_, ?_⟩
    · rw [← List.drop_take (i := 40) (j := 80), toList_padRight, List.take_append, List.drop_append]
    · exact fun _ hb => isBlank_of_mem_replicate (List.mem_of_mem_take (List.mem_of_mem_drop hb))
  rw [hcode, Chars.dropEnd_append_cons hblank, Chars.suffix_append_cons_iff hmarker, hbehind,
    Chars.dropEnd_append_of_all hblanks] at hends
  have hwhole := Chars.dropEnd_suffix (p := isBlank) ((raw.toList.take 80).take 40)
    ((raw.toList.take 80).drop 40)
  rw [List.take_append_drop] at hwhole
  exact hends.trans hwhole

end FusedSize

end Definition

end RpgLint
