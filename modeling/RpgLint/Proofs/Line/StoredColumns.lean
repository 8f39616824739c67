import Mathlib.Data.String.Basic
import RpgLint.Line.Bytes
import RpgLint.Proofs.Line.FrontColumns

/-!
# Columns are characters

Columns are counted in characters, and a stored line is cut by bytes.  The offset of a position is
the length in bytes of the characters in front of it, in a line of ASCII characters because each of
them takes one byte.  So offsets are always between characters, in the order of their positions, and
what is cut out between two of them are the characters between the positions.

## Main definitions

* `IsTrimmed` — a text without the blanks around it.

## Main results

* `Bytes.isAscii_iff` — the lines in which each byte is a character.
* `Bytes.offset_eq` — the offset of a position, in either kind of line.
* `Bytes.cut?_of_split` — what is cut out of a line between characters.
* `Bytes.charLength_eq`, `Bytes.charAt?_eq`, `Bytes.slice?_eq`, `Bytes.sliceFrom?_eq`,
  `Bytes.extract?_eq` — columns by bytes are columns by characters.
* `columns_are_characters` — what is read of the columns of a line.
-/

namespace RpgLint

/-- The characters between two positions stand behind those in front. -/
theorem take_append_drop_take {i j : ℕ} (h : i ≤ j) (cs : List Char) :
    cs.take i ++ (cs.take j).drop i = cs.take j := by
  have hjoined := List.take_append_drop i (cs.take j)
  rwa [List.take_take, Nat.min_eq_left h] at hjoined

namespace Bytes

/-! ### Lines in which each byte is a character -/

theorem bytes_eq (line : String) : bytes line = line.toList.flatMap String.utf8EncodeChar := by
  rw [bytes, ← String.utf8Encode_toList, List.utf8Encode, List.toList_data_toByteArray]

theorem utf8Size_eq_one_iff {c : Char} : c.utf8Size = 1 ↔ c.val.toNat ≤ 127 := by
  rw [Char.utf8Size_eq_one_iff, UInt32.le_iff_toNat_le]
  rfl

/-- A character of more than one byte ends with a byte that no ASCII character has. -/
theorem forall_mem_utf8EncodeChar_iff (c : Char) :
    (∀ b ∈ String.utf8EncodeChar c, b < 128) ↔ c.utf8Size = 1 := by
  have hbyte : ∀ n : ℕ, UInt8.ofNat n < 128 ↔ n % 256 < 128 := by
    intro n
    rw [UInt8.lt_iff_toNat_lt, UInt8.toNat_ofNat']
    rfl
  -- the last byte of a longer encoding, whichever it is
  have hlast : ¬UInt8.ofNat (c.val.toNat % 64 + 128) < 128 := by
    rw [hbyte]
    omega
  rw [utf8Size_eq_one_iff]
  unfold String.utf8EncodeChar
  dsimp only
  split_ifs with hone htwo hthree
  · refine iff_of_true ?_ hone
    simp only [List.forall_mem_singleton, hbyte]
    omega
  all_goals exact iff_of_false (fun h => hlast (h _ (by simp))) hone

/-- **A line is ASCII when each of its characters takes one byte.** -/
theorem isAscii_iff (line : String) : isAscii line = true ↔ ∀ c ∈ line.toList, c.utf8Size = 1 := by
  simp only [isAscii, bytes_eq, List.all_eq_true, List.forall_mem_flatMap, decide_eq_true_eq,
    forall_mem_utf8EncodeChar_iff]

section

variable {cs : List Char}

theorem utf8Len_eq_length (h : ∀ c ∈ cs, c.utf8Size = 1) : String.utf8Len cs = cs.length := by
  induction cs with
  | nil => rfl
  | cons c cs ih =>
    obtain ⟨hc, hcs⟩ := List.forall_mem_cons.mp h
    rw [String.utf8Len_cons, ih hcs, hc, List.length_cons]

theorem flatMap_utf8EncodeChar_eq_map (h : ∀ c ∈ cs, c.utf8Size = 1) :
    cs.flatMap String.utf8EncodeChar = cs.map fun c => c.val.toUInt8 := by
  induction cs with
  | nil => rfl
  | cons c cs ih =>
    obtain ⟨hc, hcs⟩ := List.forall_mem_cons.mp h
    rw [List.flatMap_cons, ih hcs, String.utf8EncodeChar_eq_singleton hc, List.map_cons,
      List.singleton_append]

theorem ofNat_toUInt8 {c : Char} (h : c.utf8Size = 1) : Char.ofNat c.val.toUInt8.toNat = c := by
  have hsmall := utf8Size_eq_one_iff.mp h
  rw [UInt32.toNat_toUInt8, Nat.mod_eq_of_lt (by omega)]
  exact Char.ofNat_toNat c

end

/-! ### Offsets -/

theorem getElem?_charOffsets (n : ℕ) (cs : List Char) (i : ℕ) :
    (charOffsets n cs)[i]? = if i < cs.length then some (n + String.utf8Len (cs.take i))
      else none := by
  induction cs generalizing n i with
  | nil => simp [charOffsets]
  | cons c cs ih =>
    cases i with
    | zero => simp [charOffsets]
    | succ i =>
      rw [charOffsets, List.getElem?_cons_succ, ih, List.take_succ_cons, String.utf8Len_cons,
        List.length_cons]
      simp only [Nat.add_lt_add_iff_right, Nat.add_assoc, Nat.add_comm c.utf8Size]

/-- **The offset of a position** is the length in bytes of the characters in front of it. -/
theorem offset_eq (line : String) (i : ℕ) :
    offset line i = String.utf8Len (line.toList.take i) := by
  unfold offset
  split
  · -- as many bytes as characters, up to the end of the line
    next hascii =>
    have hone := (isAscii_iff line).mp hascii
    have hfront : ∀ c ∈ line.toList.take i, c.utf8Size = 1 :=
      fun c hc => hone c (List.mem_of_mem_take hc)
    rw [← String.utf8Len_toList, utf8Len_eq_length hone, utf8Len_eq_length hfront, List.length_take]
  · -- a listed offset, or behind all of them the length of the line
    rw [getElem?_charOffsets]
    split
    · rw [Option.getD_some, Nat.zero_add]
    · next hbehind =>
      rw [Option.getD_none, List.take_of_length_le (Nat.le_of_not_lt hbehind),
        String.utf8Len_toList]

theorem offset_le (line : String) (i : ℕ) : offset line i ≤ line.utf8ByteSize := by
  rw [offset_eq, ← String.utf8Len_toList]
  exact String.utf8Len_le_of_prefix (List.take_prefix i line.toList)

/-- **Offsets are between characters.** -/
theorem isValid_offset (line : String) (i : ℕ) : String.Pos.Raw.IsValid line ⟨offset line i⟩ := by
  refine String.Pos.Raw.isValid_iff_exists_take_toList.mpr ⟨i, ?_⟩
  rw [String.utf8ByteSize_ofList]
  exact offset_eq line i

/-! ### What is cut out of a line -/

/-- **Between characters a line can be cut**, and the characters in between are cut out. -/
theorem cut?_of_split {line : String} {front middle back : List Char}
    (h : line.toList = front ++ (middle ++ back)) :
    cut? line (String.utf8Len front) (String.utf8Len front + String.utf8Len middle) =
      some (String.ofList middle) := by
  have hline : line = String.ofList front ++ (String.ofList middle ++ String.ofList back) := by
    rw [← String.ofList_append, ← String.ofList_append, ← h, String.ofList_toList]
  -- a cut succeeds when both of its ends are between characters
  have hfirst : String.Pos.Raw.IsValid line ⟨String.utf8Len front⟩ := by
    refine String.Pos.Raw.isValid_iff_exists_append.mpr ⟨_, _, hline, ?_⟩
    rw [String.rawEndPos_ofList]
  have hbehind : String.Pos.Raw.IsValid line ⟨String.utf8Len front + String.utf8Len middle⟩ := by
    refine String.Pos.Raw.isValid_iff_exists_append.mpr
      ⟨String.ofList front ++ String.ofList middle,
      String.ofList back, by rw [hline, String.append_assoc], ?_⟩
    rw [← String.ofList_append, String.rawEndPos_ofList, String.utf8Len_append]
  -- and gives the bytes of the characters in between
  have hbytes : line.toByteArray.extract (String.utf8Len front)
      (String.utf8Len front + String.utf8Len middle) =
      middle.utf8Encode := by
    have hfrontSize : (String.ofList front).toByteArray.size = String.utf8Len front :=
      String.utf8ByteSize_ofList front
    have hmiddleSize : (String.ofList middle).toByteArray.size = String.utf8Len middle :=
      String.utf8ByteSize_ofList middle
    rw [hline, String.toByteArray_append, String.toByteArray_append, ← hfrontSize, ← hmiddleSize]
    calc ((String.ofList front).toByteArray ++
            ((String.ofList middle).toByteArray ++ (String.ofList back).toByteArray)).extract
          ((String.ofList front).toByteArray.size + 0)
          ((String.ofList front).toByteArray.size + (String.ofList middle).toByteArray.size)
        = ((String.ofList middle).toByteArray ++ (String.ofList back).toByteArray).extract 0
            (String.ofList middle).toByteArray.size := ByteArray.extract_append_size_add
      _ = (String.ofList middle).toByteArray := ByteArray.extract_append_eq_left rfl
      _ = middle.utf8Encode := String.toByteArray_ofList
  rw [cut?, if_pos ⟨Nat.le_add_right _ _, hfirst, hbehind⟩, hbytes, String.fromUTF8?,
    dif_pos ByteArray.isValidUTF8_utf8Encode]
  rfl

/-- Between the offsets of two positions are the characters between the positions. -/
theorem cut?_offset (line : String) {i j : ℕ} (h : i ≤ j) :
    cut? line (offset line i) (offset line j) = some (slice line i j) := by
  have htake := take_append_drop_take h line.toList
  have hsplit : line.toList = line.toList.take i ++
      ((line.toList.take j).drop i ++ line.toList.drop j) := by
    rw [← List.append_assoc, htake, List.take_append_drop]
  have hstop : offset line j = String.utf8Len (line.toList.take i) +
      String.utf8Len ((line.toList.take j).drop i) := by
    rw [offset_eq, ← String.utf8Len_append, htake]
  rw [hstop, offset_eq]
  exact cut?_of_split hsplit

/-! ### Columns by bytes -/

section

variable (line : String)

theorem charLength_eq : charLength line = RpgLint.charLength line := by
  unfold charLength RpgLint.charLength
  split
  · next hascii => rw [← String.utf8Len_toList, utf8Len_eq_length ((isAscii_iff line).mp hascii)]
  · rfl

theorem charAt?_eq (i : ℕ) : charAt? line i = RpgLint.charAt? line i := by
  unfold charAt? RpgLint.charAt?
  split
  · next hascii =>
    -- the byte at a position is the character at this position
    have hone := (isAscii_iff line).mp hascii
    rw [bytes_eq, flatMap_utf8EncodeChar_eq_map hone, List.getElem?_map, Option.map_map]
    cases hat : line.toList[i]? with
    | none => rfl
    | some c => exact congrArg some (ofNat_toUInt8 (hone c (List.mem_of_getElem? hat)))
  · rfl

theorem slice?_eq (start stop : ℕ) : slice? line start stop = some (slice line start stop) := by
  unfold slice?
  split
  · next hempty => rw [slice, List.drop_take, Nat.sub_eq_zero_of_le hempty]; rfl
  · next hsome => exact cut?_offset line (Nat.le_of_not_le hsome)

theorem sliceFrom?_eq (start : ℕ) : sliceFrom? line start = some (sliceFrom line start) := by
  -- every position behind the last character has the length as its offset
  have hend : line.utf8ByteSize = offset line (max start line.toList.length) := by
    rw [offset_eq, List.take_of_length_le (Nat.le_max_right _ _), String.utf8Len_toList]
  rw [sliceFrom?, hend, cut?_offset line (Nat.le_max_left _ _), slice, sliceFrom,
    List.take_of_length_le (Nat.le_max_right _ _)]

/-- A field by bytes: nothing is lost when a line that ends before it is not cut. -/
theorem extract?_eq (span : Span) : extract? span line = some (span.extract? line) := by
  unfold extract?
  rw [charLength_eq, slice?_eq]
  split
  · next hshort =>
    have hnone : (line.toList.take span.stop).drop span.start = [] :=
      List.drop_eq_nil_of_le ((List.length_take_le' _ _).trans hshort)
    rw [Span.extract?, Span.text, slice, hnone]
    rfl
  · rfl

theorem isBlank?_eq (span : Span) : isBlank? span line = some (span.isBlank line) := by
  rw [isBlank?, slice?_eq, Option.map_some, isEmpty_trim, Span.isBlank, Span.text]

end

end Bytes

/-! ### Fields without the blanks around them -/

/-- The value is the text without the blanks around it. -/
structure IsTrimmed (text value : String) : Prop where
  /-- Only blanks are left out, at the two ends. -/
  split : ∃ front back, text.toList = front ++ (value.toList ++ back) ∧
    (∀ c ∈ front, isBlank c = true) ∧ ∀ c ∈ back, isBlank c = true
  /-- It begins with no blank. -/
  head : ∀ c ∈ value.toList.head?, isBlank c = false
  /-- It ends with no blank. -/
  last : ∀ c ∈ value.toList.getLast?, isBlank c = false

theorem isTrimmed_trim (text : String) : IsTrimmed text (trim text) := by
  have hvalue : (trim text).toList = Chars.trim text.toList := by rw [trim, String.toList_ofList]
  constructor
  · rw [hvalue]
    exact Chars.exists_append_trim text.toList
  · rw [hvalue]
    exact fun c hc => Chars.isBlank_of_mem_head?_trim hc
  · rw [hvalue]
    exact fun c hc => Chars.isBlank_of_mem_getLast?_trim hc

/-- What is read of a field is its text without the blanks around it, and never nothing. -/
theorem Span.isTrimmed_of_extract? {span : Span} {line value : String}
    (h : span.extract? line = some value) :
    IsTrimmed (span.text line) value ∧ value ≠ "" := by
  unfold extract? at h
  dsimp only at h
  split at h
  · cases h
  · next hsome =>
    rw [← Option.some.inj h]
    exact ⟨isTrimmed_trim _, fun hempty => hsome (String.isEmpty_iff.mpr hempty)⟩

/-! ### What is read of the columns -/

theorem getElem?_slice (line : String) (start stop k : ℕ) :
    (slice line start stop).toList[k]? = if start + k < stop then charAt? line (start + k)
      else none := by
  rw [slice, String.toList_ofList, List.getElem?_drop, List.getElem?_take, charAt?]

theorem slice_eq_empty_iff (line : String) (start stop : ℕ) :
    slice line start stop = "" ↔ stop ≤ start ∨ charLength line ≤ start := by
  rw [slice, ← String.toList_eq_nil_iff, String.toList_ofList, List.drop_eq_nil_iff,
    List.length_take, charLength]
  exact min_le_iff

theorem getElem?_sliceFrom (line : String) (start k : ℕ) :
    (sliceFrom line start).toList[k]? = charAt? line (start + k) := by
  rw [sliceFrom, String.toList_ofList, List.getElem?_drop, charAt?]

/-- Three parts of a line, joined. -/
theorem slices_append (line : String) {a b : ℕ} (h : a ≤ b) :
    slice line 0 a ++ slice line a b ++ sliceFrom line b = line := by
  have hfront : line.toList.take a ++ (line.toList.take b).drop a = line.toList.take b :=
    take_append_drop_take h _
  rw [slice, slice, sliceFrom, ← String.ofList_append, ← String.ofList_append, List.drop_zero,
    hfront, List.take_append_drop, String.ofList_toList]

/-- **The columns of a line are its characters**, whether they are read one by one or cut out of its
bytes.  There is a character in each column up to the length; a slice is made of the characters
between its positions; and positions in order cut a line into parts that join up.  Offsets in the
bytes are within the line and between characters, so that no cut fails.  A field is read as nothing
exactly when it is blank, and otherwise as its text without the blanks around it. -/
theorem columns_are_characters (line : String) :
    (charLength line = line.toList.length ∧ Bytes.charLength line = charLength line) ∧
      (∀ i, charAt? line i = line.toList[i]? ∧ Bytes.charAt? line i = charAt? line i) ∧
      (∀ i, Bytes.offset line i ≤ line.utf8ByteSize ∧
        String.Pos.Raw.IsValid line ⟨Bytes.offset line i⟩) ∧
      (∀ start stop,
        (∀ k, (slice line start stop).toList[k]? = if start + k < stop then charAt? line (start + k)
          else none) ∧
          (slice line start stop = "" ↔ stop ≤ start ∨ charLength line ≤ start) ∧
          Bytes.slice? line start stop = some (slice line start stop)) ∧
      (∀ start,
        (∀ k, (sliceFrom line start).toList[k]? = charAt? line (start + k)) ∧
          Bytes.sliceFrom? line start = some (sliceFrom line start)) ∧
      (∀ a b, a ≤ b → slice line 0 a ++ slice line a b ++ sliceFrom line b = line) ∧
      ∀ span : Span,
        (span.extract? line = none ↔ span.isBlank line = true) ∧
          (∀ value ∈ span.extract? line, IsTrimmed (span.text line) value ∧ value ≠ "") ∧
          Bytes.extract? span line = some (span.extract? line) ∧
          Bytes.isBlank? span line = some (span.isBlank line) := by
  refine ⟨⟨rfl, Bytes.charLength_eq line⟩, fun i => ⟨rfl, Bytes.charAt?_eq line i⟩,
    fun i => ⟨Bytes.offset_le line i, Bytes.isValid_offset line i⟩,
    fun start stop => ?_, fun start => ?_, fun a b h => slices_append line h, fun span => ?_⟩
  · exact ⟨getElem?_slice line start stop, slice_eq_empty_iff line start stop,
      Bytes.slice?_eq line start stop⟩
  · exact ⟨getElem?_sliceFrom line start, Bytes.sliceFrom?_eq line start⟩
  · exact ⟨Span.extract?_eq_none_iff, fun value hvalue => Span.isTrimmed_of_extract? hvalue,
      Bytes.extract?_eq line span, Bytes.isBlank?_eq line span⟩

end RpgLint
