import Mathlib.Tactic.SplitIfs
import RpgLint.Proofs.Json.Layout

/-!
# Reading what was written

The text of a value, written in any layout, is read back as the value itself.  This holds for every
value made of texts, truth values, natural numbers, lists and objects: a string may hold any
characters, since the quote, the backslash and the control characters are escaped, and the reader
stops where the written form ends.

## Main definitions

* `Json.isPlain` — the values that have a written form of their own.
* `Json.EndsNumber` — a text that cannot go on with a number.

## Main results

* `Json.readString_quote` — strings.
* `Json.readNumber_natural` — natural numbers.
* `Json.readValue_chars` — values in front of any text that ends a number.
* `Json.read?_pretty`, `Json.read?_compact` — the texts of a value.
-/

namespace RpgLint.Json

/-! ### Strings -/

theorem digitValue?_hexDigit : ∀ n < 16, digitValue? (hexDigit n) = some n := by decide

theorem fourDigits?_hexDigit {n : Nat} (h : n < 0x20) :
    fourDigits? '0' '0' (hexDigit (n / 16)) (hexDigit (n % 16)) = some n := by
  have hhigh := digitValue?_hexDigit (n / 16) (by omega)
  have hlow := digitValue?_hexDigit (n % 16) (by omega)
  have hzero : digitValue? '0' = some 0 := by decide
  have hsum : ((0 * 16 + 0) * 16 + n / 16) * 16 + n % 16 = n := by omega
  simp [fourDigits?, hhigh, hlow, hzero]
  omega

/-- A backslash and a letter. -/
theorem readString_backslash {letter c : Char} (hletter : letter ≠ 'u')
    (hc : escapeLetter? letter = some c) (rest : List Char) :
    readString ('\\' :: letter :: rest) = prependChar (some c) (readString rest) := by
  rw [readString, hc]
  -- no other way of reading a backslash applies
  intro _ _ _ _ _ hu
  exact absurd hu hletter

/-- A control character by its number. -/
theorem readString_control {c : Char} (hcontrol : c.toNat < 0x20) (rest : List Char) :
    readString ('\\' :: 'u' :: '0' :: '0' :: hexDigit (c.toNat / 16) :: hexDigit (c.toNat % 16) ::
      rest) = prependChar (some c) (readString rest) := by
  have htrailing : isTrailing c.toNat = false := by simp [isTrailing]; omega
  have hleading : isLeading c.toNat = false := by simp [isLeading]; omega
  rw [readString, fourDigits?_hexDigit hcontrol]
  simp [htrailing, hleading, Char.ofNat_toNat]

/-- A character that stands for itself. -/
theorem readString_self {c : Char} (hquote : c ≠ '"') (hbackslash : c ≠ '\\')
    (hcontrol : ¬ c.toNat < 0x20) (rest : List Char) :
    readString (c :: rest) = prependChar (some c) (readString rest) := by
  rw [readString, if_neg hcontrol]
  · exact hquote
  · intro _ _ _ _ _ h
    exact absurd h hbackslash
  · intro _ _ h
    exact absurd h hbackslash

/-- **A written character is read back.** -/
theorem readString_escapeChar (c : Char) (rest : List Char) :
    readString (escapeChar c ++ rest) = prependChar (some c) (readString rest) := by
  unfold escapeChar
  split_ifs with hquote hbackslash hb hf hn hr ht hcontrol
  · -- characters with a letter of their own behind the backslash
    obtain rfl := hquote
    exact readString_backslash (by decide) rfl rest
  · obtain rfl := hbackslash
    exact readString_backslash (by decide) rfl rest
  · obtain rfl := hb
    exact readString_backslash (by decide) rfl rest
  · obtain rfl := hf
    exact readString_backslash (by decide) rfl rest
  · obtain rfl := hn
    exact readString_backslash (by decide) rfl rest
  · obtain rfl := hr
    exact readString_backslash (by decide) rfl rest
  · obtain rfl := ht
    exact readString_backslash (by decide) rfl rest
  · -- control characters, and all others
    exact readString_control hcontrol rest
  · exact readString_self hquote hbackslash hcontrol rest

theorem readString_flatMap_escapeChar (text rest : List Char) :
    readString (text.flatMap escapeChar ++ '"' :: rest) = some (some text, rest) := by
  induction text with
  | nil => simp [readString]
  | cons c text ih =>
    rw [List.flatMap_cons, List.append_assoc, readString_escapeChar, ih]
    rfl

/-- **A written string is read back up to its closing quote.** -/
theorem readString_quote (text : String) (rest : List Char) :
    ∃ cs, quote text ++ rest = '"' :: cs ∧ readString cs = some (some text.toList, rest) := by
  refine ⟨text.toList.flatMap escapeChar ++ '"' :: rest, ?_, readString_flatMap_escapeChar _ _⟩
  simp [quote]

/-! ### Numbers -/

/-- The text cannot go on with a number. -/
def EndsNumber (rest : List Char) : Prop :=
  ∀ c ∈ rest.head?, isAsciiDigit c = false ∧ c ≠ '.' ∧ c ≠ 'e' ∧ c ≠ 'E'

theorem endsNumber_nil : EndsNumber [] := by
  intro c hc
  simp at hc

theorem endsNumber_cons {c : Char} (hc : isAsciiDigit c = false ∧ c ≠ '.' ∧ c ≠ 'e' ∧ c ≠ 'E')
    (rest : List Char) : EndsNumber (c :: rest) := by
  intro d hd
  obtain rfl : c = d := by simpa using hd
  exact hc

/-- A blank is no part of a number. -/
theorem endsNumber_append {gap rest : List Char} (hgap : ∀ c ∈ gap, isSpace c)
    (hrest : EndsNumber rest) : EndsNumber (gap ++ rest) := by
  cases gap with
  | nil => exact hrest
  | cons c gap =>
    have hc := hgap c List.mem_cons_self
    simp only [isSpace, Bool.or_eq_true, beq_iff_eq] at hc
    rcases hc with ((rfl | rfl) | rfl) | rfl <;> exact endsNumber_cons (by decide) _

theorem isAsciiDigit_of_mem_toDigits {n : Nat} {c : Char} (h : c ∈ Nat.toDigits 10 n) :
    isAsciiDigit c := by
  have hdigit := Nat.isDigit_of_mem_toDigits (by decide) (by decide) h
  simpa [isAsciiDigit, Char.isDigit, Char.le_def] using hdigit

/-- A number of several digits does not begin with zero. -/
theorem head?_toDigits_ne_zero (n : Nat) : 0 < n → (Nat.toDigits 10 n).head? ≠ some '0' := by
  -- all digits but the last are those of the tenth part
  induction n using Nat.strongRecOn with
  | _ n ih =>
    intro hpos
    rcases Nat.lt_or_ge n 10 with hlt | hge
    · -- a single digit
      rw [Nat.toDigits_of_lt_base hlt]
      have hdigit : ∀ m < 10, 0 < m → Nat.digitChar m ≠ '0' := by decide
      simpa using hdigit n hlt hpos
    · rw [Nat.toDigits_of_base_le (by decide) hge, List.head?_append]
      have htenth := ih (n / 10) (by omega) (by omega)
      cases hhead : (Nat.toDigits 10 (n / 10)).head? with
      | none => exact absurd (List.head?_eq_none_iff.mp hhead) Nat.toDigits_ne_nil
      | some c =>
        rw [hhead] at htenth
        simpa using htenth

theorem spanDigits_append {digits rest : List Char} (hdigits : ∀ c ∈ digits, isAsciiDigit c)
    (hrest : EndsNumber rest) : spanDigits (digits ++ rest) = (digits, rest) := by
  have hstop : ∀ c ∈ rest.head?, isAsciiDigit c = false := fun c hc => (hrest c hc).1
  unfold spanDigits
  rw [List.takeWhile_append_of_pos hdigits, List.dropWhile_append_of_pos hdigits]
  cases rest with
  | nil => simp
  | cons c rest => simp [hstop c rfl]

theorem decimalValue_toDigits (n : Nat) :
    decimalValue (String.ofList (Nat.toDigits 10 n)) = n := by
  rw [decimalValue, String.toList_ofList]
  exact Nat.ofDigitChars_ten_toDigits

theorem readFraction_of_endsNumber {rest : List Char} (h : EndsNumber rest) :
    readFraction rest = some ([], rest) := by
  unfold readFraction
  split
  · next cs => exact absurd rfl (h '.' rfl).2.1
  · rfl

theorem readExponent_of_endsNumber {rest : List Char} (h : EndsNumber rest) :
    readExponent rest = some ([], rest) := by
  cases rest with
  | nil => rfl
  | cons c cs =>
    obtain ⟨-, -, he, hE⟩ := h c rfl
    simp [readExponent, he, hE]

/-- The written form of a natural number is one that is accepted. -/
theorem toDigits_accepted (n : Nat) :
    ((Nat.toDigits 10 n).isEmpty || ((Nat.toDigits 10 n).head? == some '0' &&
      decide (1 < (Nat.toDigits 10 n).length))) = false := by
  have hne : (Nat.toDigits 10 n).isEmpty = false := by simp [Nat.toDigits_ne_nil]
  rw [hne, Bool.false_or]
  rcases Nat.eq_zero_or_pos n with rfl | hpos
  · -- zero is written as one digit
    rfl
  · simp [head?_toDigits_ne_zero n hpos]

/-- **A written natural number is read back.** -/
theorem readNumber_natural (n : Nat) {rest : List Char} (hrest : EndsNumber rest) :
    readNumber (Nat.toDigits 10 n ++ rest) = some (.natural n, rest) := by
  have hdigits : ∀ c ∈ Nat.toDigits 10 n, isAsciiDigit c := fun c => isAsciiDigit_of_mem_toDigits
  have hspan := spanDigits_append hdigits hrest
  -- no sign stands in front
  have hpositive : ((Nat.toDigits 10 n ++ rest).head? == some '-') = false := by
    cases hcs : Nat.toDigits 10 n with
    | nil => exact absurd hcs Nat.toDigits_ne_nil
    | cons c cs =>
      have hc := hdigits c (by rw [hcs]; exact List.mem_cons_self)
      rw [List.cons_append, List.head?_cons, beq_eq_false_iff_ne]
      rintro h
      obtain rfl := Option.some.inj h
      exact absurd hc (by decide)
  -- nothing is left for a fraction or an exponent
  unfold readNumber
  simp only [hpositive, Bool.false_eq_true, if_false, hspan, toDigits_accepted,
    readFraction_of_endsNumber hrest]
  simp only [Option.bind_eq_bind, Option.bind_some, readExponent_of_endsNumber hrest,
    List.isEmpty_nil, Bool.not_true, Bool.or_self, Bool.false_eq_true, if_false,
    decimalValue_toDigits]
  rfl

/-! ### Blanks -/

theorem skipSpace_append {gap : List Char} (hgap : ∀ c ∈ gap, isSpace c) (cs : List Char) :
    skipSpace (gap ++ cs) = skipSpace cs :=
  List.dropWhile_append_of_pos hgap

theorem skipSpace_cons {c : Char} (h : isSpace c = false) (cs : List Char) :
    skipSpace (c :: cs) = c :: cs := by
  simp [skipSpace, h]

theorem readValue_congr (fuel : Nat) {cs ds : List Char} (h : skipSpace cs = skipSpace ds) :
    readValue fuel cs = readValue fuel ds := by
  cases fuel with
  | zero => simp only [readValue]
  | succ fuel => simp only [readValue, h]

theorem readItems_congr (fuel : Nat) {cs ds : List Char} (h : skipSpace cs = skipSpace ds) :
    readItems fuel cs = readItems fuel ds := by
  cases fuel with
  | zero => simp only [readItems]
  | succ fuel => simp only [readItems, readValue_congr fuel h]

theorem readFields_congr (fuel : Nat) {cs ds : List Char} (h : skipSpace cs = skipSpace ds) :
    readFields fuel cs = readFields fuel ds := by
  cases fuel with
  | zero => simp only [readFields]
  | succ fuel => simp only [readFields, h]

/-! ### One step of the reader -/

section Steps

variable {fuel : Nat} {cs rest gap : List Char}

theorem readValue_string (text : String) :
    readValue (fuel + 1) (quote text ++ rest) = some (string text, rest) := by
  obtain ⟨tail, htail, hread⟩ := readString_quote text rest
  rw [readValue, htail, skipSpace_cons (by decide)]
  simp only [hread, String.ofList_toList]

theorem readValue_bool (value : Bool) :
    readValue (fuel + 1) ((if value then "true" else "false").toList ++ rest) =
      some (bool value, rest) := by
  cases value <;> rfl

/-- A digit is no blank and begins no value but a number. -/
theorem ne_of_isAsciiDigit {c : Char} (h : isAsciiDigit c) :
    isSpace c = false ∧ c ≠ '"' ∧ c ≠ '[' ∧ c ≠ ']' ∧ c ≠ '\x7b' ∧ c ≠ 'n' ∧ c ≠ 't' ∧ c ≠ 'f' := by
  have hne : ∀ d, isAsciiDigit d = false → c ≠ d := by
    rintro d hd rfl
    rw [h] at hd
    cases hd
  refine ⟨?_, hne _ rfl, hne _ rfl, hne _ rfl, hne _ rfl, hne _ rfl, hne _ rfl, hne _ rfl⟩
  simp [isSpace, hne ' ' rfl, hne '\n' rfl, hne '\t' rfl, hne '\r' rfl]

theorem readValue_natural (n : Nat) (hrest : EndsNumber rest) :
    readValue (fuel + 1) (Nat.toDigits 10 n ++ rest) = some (number (.natural n), rest) := by
  have hread := readNumber_natural n hrest
  cases hcs : Nat.toDigits 10 n with
  | nil => exact absurd hcs Nat.toDigits_ne_nil
  | cons c cs =>
    have hc : c ∈ Nat.toDigits 10 n := by rw [hcs]; exact List.mem_cons_self
    obtain ⟨hspace, hquote, hbracket, -, hbrace, hn, ht, hf⟩ :=
      ne_of_isAsciiDigit (isAsciiDigit_of_mem_toDigits hc)
    rw [hcs] at hread
    rw [readValue, List.cons_append, skipSpace_cons hspace]
    -- the digit rules out all branches of the reader but the one for numbers
    split <;> simp_all

/-- A list that is not closed at once has its items up to the bracket. -/
theorem readValue_array {c : Char} (hhead : skipSpace cs = c :: rest) (hc : c ≠ ']')
    {items : List Json} {after : List Char}
    (hitems : readItems fuel (c :: rest) = some (items, after)) :
    readValue (fuel + 1) ('[' :: cs) = some (array items, after) := by
  rw [readValue, skipSpace_cons (by decide)]
  simp only [hhead]
  split
  · next heq => exact absurd (List.cons.inj heq).1 hc
  · rw [hitems]
    rfl

/-- An object that is not closed at once has its fields up to the brace. -/
theorem readValue_object (hhead : skipSpace cs = '"' :: rest) :
    readValue (fuel + 1) ('\x7b' :: cs) = readFields fuel ('"' :: rest) := by
  rw [readValue, skipSpace_cons (by decide)]
  simp only [hhead]
  rfl

theorem readItems_last {item : Json} (hgap : ∀ c ∈ gap, isSpace c)
    (h : readValue fuel cs = some (item, gap ++ ']' :: rest)) :
    readItems (fuel + 1) cs = some ([item], rest) := by
  rw [readItems, h]
  simp only [skipSpace_append hgap, skipSpace_cons (show isSpace ']' = false by decide)]

theorem readItems_more {item : Json} {items : List Json} {after : List Char}
    (h : readValue fuel cs = some (item, ',' :: rest))
    (hitems : readItems fuel rest = some (items, after)) :
    readItems (fuel + 1) cs = some (item :: items, after) := by
  rw [readItems, h]
  simp only [skipSpace_cons (show isSpace ',' = false by decide), hitems, Option.map_some]

/-- The name of a field, the colon and the value are read off, and the object is closed. -/
theorem readFields_last {name : String} {value : Json} (hgap : ∀ c ∈ gap, isSpace c)
    (h : readValue fuel cs = some (value, gap ++ '\x7d' :: rest)) :
    readFields (fuel + 1) (quote name ++ ':' :: cs) = some (object [(name, value)], rest) := by
  obtain ⟨tail, htail, hread⟩ := readString_quote name (':' :: cs)
  rw [readFields, htail, skipSpace_cons (by decide)]
  simp only [hread, skipSpace_cons (show isSpace ':' = false by decide), h, skipSpace_append hgap,
    skipSpace_cons (show isSpace '\x7d' = false by decide), withField, String.ofList_toList]

/-- The name of a field, the colon, the value and the comma are read off, and more fields follow. -/
theorem readFields_more {name : String} {value : Json} {fields : List (String × Json)}
    {after : List Char} (h : readValue fuel cs = some (value, ',' :: rest))
    (hfields : readFields fuel rest = some (object fields, after)) :
    readFields (fuel + 1) (quote name ++ ':' :: cs) =
      some (object ((name, value) :: fields), after) := by
  obtain ⟨tail, htail, hread⟩ := readString_quote name (':' :: cs)
  rw [readFields, htail, skipSpace_cons (by decide)]
  simp only [hread, skipSpace_cons (show isSpace ':' = false by decide), h,
    skipSpace_cons (show isSpace ',' = false by decide), hfields, Option.map_some, withField,
    String.ofList_toList]

end Steps

/-! ### Values -/

mutual

/-- The value is made of texts, truth values, natural numbers, lists and objects. -/
def isPlain : Json → Bool
  | null | bool _ | string _ | number (.natural _) => true
  | number (.written _) | unreadable => false
  | array items => arePlain items
  | object fields => arePlainFields fields

/-- All of the values are. -/
def arePlain : List Json → Bool
  | [] => true
  | item :: items => isPlain item && arePlain items

/-- The values of all of the fields are. -/
def arePlainFields : List (String × Json) → Bool
  | [] => true
  | (_, value) :: fields => isPlain value && arePlainFields fields

end

section Layouts

variable {layout : Layout}

/-- A written value begins with a character that is no blank and closes no list. -/
theorem chars_head (layout : Layout) {value : Json} (h : value.isPlain) (level : Nat) :
    ∃ c cs, layout.chars level value = c :: cs ∧ isSpace c = false ∧ c ≠ ']' := by
  cases value with
  | null => exact ⟨'n', _, rfl, by decide, by decide⟩
  | unreadable => cases h
  | bool value =>
    cases value with
    | true => exact ⟨'t', _, rfl, by decide, by decide⟩
    | false => exact ⟨'f', _, rfl, by decide, by decide⟩
  | number value =>
    cases value with
    | written text => cases h
    | natural n =>
      cases hcs : Nat.toDigits 10 n with
      | nil => exact absurd hcs Nat.toDigits_ne_nil
      | cons c cs =>
        have hc : c ∈ Nat.toDigits 10 n := by rw [hcs]; exact List.mem_cons_self
        obtain ⟨hspace, -, -, hbracket, -⟩ := ne_of_isAsciiDigit (isAsciiDigit_of_mem_toDigits hc)
        exact ⟨c, cs, hcs, hspace, hbracket⟩
  | string text => exact ⟨'"', _, rfl, by decide, by decide⟩
  | array items => cases items <;> exact ⟨'[', _, rfl, by decide, by decide⟩
  | object fields => cases fields <;> exact ⟨'\x7b', _, rfl, by decide, by decide⟩

/-- With so much fuel every written value is read back. -/
def ReadsValues (layout : Layout) (fuel : Nat) : Prop :=
  ∀ (value : Json) (level : Nat) (rest : List Char), value.isPlain → EndsNumber rest →
    (layout.chars level value).length ≤ fuel →
      readValue fuel (layout.chars level value ++ rest) = some (value, rest)

/-- With so much fuel every written list of items is read back, up to the bracket that closes it. -/
def ReadsItems (layout : Layout) (fuel : Nat) : Prop :=
  ∀ (item : Json) (items : List Json) (level outer : Nat) (rest : List Char),
    item.isPlain → arePlain items →
    (layout.chars level item).length + (layout.itemChars level items).length < fuel →
      readItems fuel (layout.chars level item ++ (layout.itemChars level items ++
        (layout.gap outer ++ ']' :: rest))) = some (item :: items, rest)

/-- With so much fuel every written list of fields is read back, up to the brace that closes it. -/
def ReadsFields (layout : Layout) (fuel : Nat) : Prop :=
  ∀ (name : String) (value : Json) (fields : List (String × Json)) (level outer : Nat)
    (rest : List Char), value.isPlain → arePlainFields fields →
    (layout.chars level value).length + (layout.fieldChars level fields).length < fuel →
      readFields fuel (quote name ++ ':' :: (layout.afterColon ++ (layout.chars level value ++
        (layout.fieldChars level fields ++ (layout.gap outer ++ '\x7d' :: rest))))) =
          some (object ((name, value) :: fields), rest)

theorem endsNumber_gap {c : Char} (hc : isAsciiDigit c = false ∧ c ≠ '.' ∧ c ≠ 'e' ∧ c ≠ 'E')
    (level : Nat) (rest : List Char) : EndsNumber (layout.gap level ++ c :: rest) :=
  endsNumber_append (layout.isSpace_of_mem_gap level) (endsNumber_cons hc rest)

theorem readsValues_succ {fuel : Nat} (hitems : ReadsItems layout fuel)
    (hfields : ReadsFields layout fuel) : ReadsValues layout (fuel + 1) := by
  intro value level rest hplain hrest hlength
  cases value with
  | null => rfl
  | unreadable => cases hplain
  | bool value => exact readValue_bool value
  | number value =>
    cases value with
    | written text => cases hplain
    | natural n => exact readValue_natural n hrest
  | string text => exact readValue_string text
  | array items =>
    cases items with
    | nil => rfl
    | cons item items =>
      simp only [isPlain, arePlain, Bool.and_eq_true] at hplain
      simp only [Layout.chars, List.length_cons, List.length_append] at hlength
      -- the first item begins behind the gap, and its first character closes no list
      obtain ⟨c, cs, hhead, hspace, hc⟩ := chars_head layout hplain.1 (level + 1)
      have hread := hitems item items (level + 1) level rest hplain.1 hplain.2 (by omega)
      simp only [Layout.chars, List.cons_append, List.append_assoc, List.nil_append]
      rw [hhead] at hread ⊢
      refine readValue_array ?_ hc hread
      rw [skipSpace_append (layout.isSpace_of_mem_gap _), List.cons_append, skipSpace_cons hspace]
      rfl
  | object fields =>
    cases fields with
    | nil => rfl
    | cons field fields =>
      obtain ⟨name, value⟩ := field
      simp only [isPlain, arePlainFields, Bool.and_eq_true] at hplain
      simp only [Layout.chars, List.length_cons, List.length_append] at hlength
      have hread := hfields name value fields (level + 1) level rest hplain.1 hplain.2 (by omega)
      -- the first name begins with a quote, behind the gap
      obtain ⟨tail, htail, -⟩ := readString_quote name (':' :: (layout.afterColon ++
        (layout.chars (level + 1) value ++ (layout.fieldChars (level + 1) fields ++
          (layout.gap level ++ '\x7d' :: rest)))))
      simp only [Layout.chars, List.cons_append, List.append_assoc, List.nil_append]
      rw [htail] at hread ⊢
      rw [readValue_object, hread]
      rw [skipSpace_append (layout.isSpace_of_mem_gap _), skipSpace_cons (by decide)]

theorem readsItems_succ {fuel : Nat} (hvalues : ReadsValues layout fuel)
    (hitems : ReadsItems layout fuel) : ReadsItems layout (fuel + 1) := by
  intro item items level outer rest hitem hplain hlength
  cases items with
  | nil =>
    simp only [Layout.itemChars, List.length_nil] at hlength
    exact readItems_last (layout.isSpace_of_mem_gap outer)
      (hvalues item level _ hitem (endsNumber_gap (by decide) _ _) (by omega))
  | cons next items =>
    simp only [arePlain, Bool.and_eq_true] at hplain
    simp only [Layout.itemChars, List.length_cons, List.length_append] at hlength
    simp only [Layout.itemChars, List.cons_append, List.append_assoc]
    refine readItems_more
      (hvalues item level _ hitem (endsNumber_cons (by decide) _) (by omega)) ?_
    -- the gap in front of the next item is skipped
    rw [readItems_congr fuel (skipSpace_append (layout.isSpace_of_mem_gap level) _)]
    exact hitems next items level outer rest hplain.1 hplain.2 (by omega)

theorem readsFields_succ {fuel : Nat} (hvalues : ReadsValues layout fuel)
    (hfields : ReadsFields layout fuel) : ReadsFields layout (fuel + 1) := by
  intro name value fields level outer rest hvalue hplain hlength
  -- what the layout puts behind a colon is skipped
  have hcolon := fun cs => readValue_congr fuel
    (skipSpace_append layout.isSpace_of_mem_afterColon (layout.chars level value ++ cs))
  cases fields with
  | nil =>
    simp only [Layout.fieldChars, List.length_nil] at hlength
    refine readFields_last (layout.isSpace_of_mem_gap outer) ?_
    rw [hcolon]
    exact hvalues value level _ hvalue (endsNumber_gap (by decide) _ _) (by omega)
  | cons next fields =>
    obtain ⟨following, next⟩ := next
    simp only [arePlainFields, Bool.and_eq_true] at hplain
    simp only [Layout.fieldChars, List.length_cons, List.length_append] at hlength
    simp only [Layout.fieldChars, List.cons_append, List.append_assoc]
    refine readFields_more ((hcolon _).trans
      (hvalues value level _ hvalue (endsNumber_cons (by decide) _) (by omega))) ?_
    rw [readFields_congr fuel (skipSpace_append (layout.isSpace_of_mem_gap level) _)]
    exact hfields following next fields level outer rest hplain.1 hplain.2 (by omega)

/-- The length of the text is fuel enough: each step of the reader takes at least one character. -/
theorem reads (fuel : Nat) :
    ReadsValues layout fuel ∧ ReadsItems layout fuel ∧ ReadsFields layout fuel := by
  induction fuel with
  | zero =>
    refine ⟨?_, ?_, ?_⟩
    · -- a written value has at least one character
      intro value level rest hplain _ hlength
      obtain ⟨c, cs, hhead, -⟩ := chars_head layout hplain level
      simp [hhead] at hlength
    · intro _ _ _ _ _ _ _ hlength
      exact absurd hlength (Nat.not_lt_zero _)
    · intro _ _ _ _ _ _ _ _ hlength
      exact absurd hlength (Nat.not_lt_zero _)
  | succ fuel ih =>
    obtain ⟨hvalues, hitems, hfields⟩ := ih
    exact ⟨readsValues_succ hitems hfields, readsItems_succ hvalues hitems,
      readsFields_succ hvalues hfields⟩

/-- **A written value is read back**, in whatever layout and in front of any text that ends a
number. -/
theorem readValue_chars {value : Json} (hplain : value.isPlain) (level : Nat)
    {rest : List Char} (hrest : EndsNumber rest) {fuel : Nat}
    (hfuel : (layout.chars level value).length ≤ fuel) :
    readValue fuel (layout.chars level value ++ rest) = some (value, rest) :=
  (reads fuel).1 value level rest hplain hrest hfuel

/-- The text of a value in any layout is read back as the value, whatever space stands behind it. -/
theorem read?_chars_append {value : Json} (hplain : value.isPlain) (level : Nat) {gap : List Char}
    (hgap : ∀ c ∈ gap, isSpace c) :
    read? (String.ofList (layout.chars level value ++ gap)) = some value := by
  have hrest : EndsNumber gap := by simpa using endsNumber_append hgap endsNumber_nil
  have hfuel : (layout.chars level value).length ≤
      2 * (layout.chars level value ++ gap).length + 2 := by
    rw [List.length_append]
    omega
  have hskip : skipSpace gap = [] := by simpa [skipSpace] using skipSpace_append hgap []
  have hread := readValue_chars hplain level hrest hfuel
  rw [read?, String.toList_ofList, hread]
  exact if_pos (List.isEmpty_iff.mpr hskip)

/-- The text of a value in any layout is read back as the value. -/
theorem read?_chars {value : Json} (hplain : value.isPlain) (level : Nat) :
    read? (String.ofList (layout.chars level value)) = some value := by
  have hgap : ∀ c ∈ ([] : List Char), isSpace c := by simp
  simpa using read?_chars_append hplain level hgap

end Layouts

/-- **The text of a value is read back as the value.** -/
theorem read?_pretty {value : Json} (hplain : value.isPlain) : read? value.pretty = some value := by
  rw [pretty, ← Layout.chars_lines]
  exact read?_chars hplain 0

/-- The text of a value is read back as the value, whatever space stands behind it. -/
theorem read?_pretty_append {value : Json} (hplain : value.isPlain) {gap : String}
    (hgap : ∀ c ∈ gap.toList, isSpace c) : read? (value.pretty ++ gap) = some value := by
  have htext : value.pretty ++ gap = String.ofList (Layout.lines.chars 0 value ++ gap.toList) := by
    rw [pretty, ← Layout.chars_lines, String.ofList_append, String.ofList_toList]
  rw [htext]
  exact read?_chars_append hplain 0 hgap

/-- **The text of a value on one line is read back as the value.** -/
theorem read?_compact {value : Json} (hplain : value.isPlain) :
    read? value.compact = some value := by
  rw [compact, ← Layout.chars_oneLine 0]
  exact read?_chars hplain 0

end RpgLint.Json
