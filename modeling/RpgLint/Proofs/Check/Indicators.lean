import Mathlib.Data.String.Basic
import RpgLint.Proofs.Check.Findings
import RpgLint.Proofs.Line.Classification

/-!
# Numbered indicators

The scan for numbered indicators tries every position of a text.  A search that goes on behind each
indicator it has found, and that tells places by bytes, finds the same ones in the same columns: an
indicator begins with an asterisk and holds no other, so that none begins inside of another one, and
the characters in front of a byte are counted once they have been decoded.

## Main definitions

* `Chars.IndicatorAt` — an indicator is written at a position.
* `Chars.leftmostRanges` — the bytes of the indicators, for a search that goes on behind each one.
* `IndicatorUse.ofBytes` — an indicator read from its bytes.

## Main results

* `Chars.IndicatorAt.add_five_le` — indicators do not overlap.
* `Chars.mem_indicatorUses_iff`, `Chars.pairwise_indicatorUses` — the indicators that are found, and
  their order.
* `Chars.map_leftmostRanges` — the search that goes on behind each indicator finds the same.
* `indicatorUses_exact` — the indicators of a text, and the findings on a line.
-/

namespace RpgLint

namespace Chars

/-! ### Where indicators are written -/

/-- An indicator is written at the position: an asterisk, the letters of `IN` in either case, and
two decimal digits. -/
structure IndicatorAt (cs : List Char) (p : ℕ) : Prop where
  /-- The asterisk. -/
  star : cs[p]? = some '*'
  /-- The first letter. -/
  letterI : ∃ c, cs[p + 1]? = some c ∧ (c = 'i' ∨ c = 'I')
  /-- The second letter. -/
  letterN : ∃ c, cs[p + 2]? = some c ∧ (c = 'n' ∨ c = 'N')
  /-- The first digit. -/
  tens : ∃ c, cs[p + 3]? = some c ∧ isDecimalDigit c = true
  /-- The second digit. -/
  units : ∃ c, cs[p + 4]? = some c ∧ isDecimalDigit c = true

section

variable {cs text : List Char} {c : Char} {p q : ℕ}

theorem indicatorAt_cons_succ : IndicatorAt (c :: cs) (p + 1) ↔ IndicatorAt cs p :=
  ⟨fun h => ⟨h.star, h.letterI, h.letterN, h.tens, h.units⟩,
    fun h => ⟨h.star, h.letterI, h.letterN, h.tens, h.units⟩⟩

theorem not_indicatorAt_nil : ¬ IndicatorAt [] p := by
  intro h
  cases h.star

/-- Behind the asterisk of an indicator there is no other one. -/
theorem IndicatorAt.getElem?_ne_star (h : IndicatorAt cs p) {i : ℕ} (hp : p < i) (hi : i < p + 5) :
    cs[i]? ≠ some '*' := by
  have hfollows : ∃ c, cs[i]? = some c ∧ c ≠ '*' := by
    have hdigit : ∀ c, isDecimalDigit c = true → c ≠ '*' := by
      rintro c hc rfl
      exact absurd hc (by decide)
    -- a letter or a digit stands there
    obtain rfl | rfl | rfl | rfl : i = p + 1 ∨ i = p + 2 ∨ i = p + 3 ∨ i = p + 4 := by omega
    · obtain ⟨c, hat, rfl | rfl⟩ := h.letterI <;> exact ⟨_, hat, by decide⟩
    · obtain ⟨c, hat, rfl | rfl⟩ := h.letterN <;> exact ⟨_, hat, by decide⟩
    · obtain ⟨c, hat, hc⟩ := h.tens
      exact ⟨c, hat, hdigit c hc⟩
    · obtain ⟨c, hat, hc⟩ := h.units
      exact ⟨c, hat, hdigit c hc⟩
  obtain ⟨c, hat, hc⟩ := hfollows
  rw [hat]
  exact fun hstar => hc (Option.some.inj hstar)

/-- **Indicators do not overlap.** -/
theorem IndicatorAt.add_five_le (hp : IndicatorAt cs p) (hq : IndicatorAt cs q) (hlt : p < q) :
    p + 5 ≤ q := by
  by_contra hnear
  exact hp.getElem?_ne_star hlt (by omega) hq.star

/-- A text begins with an indicator exactly when one is written at its first position, and then it
is made of the first five characters. -/
theorem indicator?_eq_some_iff :
    indicator? cs = some text ↔ IndicatorAt cs 0 ∧ text = cs.take 5 := by
  have hI : ∀ c : Char, c.toUpper = 'I' ↔ c = 'i' ∨ c = 'I' :=
    fun _ => toUpper_eq_iff (by decide) rfl
  have hN : ∀ c : Char, c.toUpper = 'N' ↔ c = 'n' ∨ c = 'N' :=
    fun _ => toUpper_eq_iff (by decide) rfl
  unfold indicator?
  split
  · -- five characters, which the pattern asks in turn
    next star i n tens units rest =>
    have hguard :
        (decide (star = '*') && i.toUpper == 'I' && n.toUpper == 'N' && isDecimalDigit tens &&
            isDecimalDigit units) = true ↔
          IndicatorAt (star :: i :: n :: tens :: units :: rest) 0 := by
      simp only [Bool.and_eq_true, decide_eq_true_eq, beq_iff_eq, hI, hN]
      constructor
      · rintro ⟨⟨⟨⟨rfl, hi⟩, hn⟩, htens⟩, hunits⟩
        exact ⟨rfl, ⟨i, rfl, hi⟩, ⟨n, rfl, hn⟩, ⟨tens, rfl, htens⟩, ⟨units, rfl, hunits⟩⟩
      · rintro ⟨hstar, ⟨_, hatI, hi⟩, ⟨_, hatN, hn⟩, ⟨_, hatTens, htens⟩, ⟨_, hatUnits, hunits⟩⟩
        obtain rfl := Option.some.inj hatI
        obtain rfl := Option.some.inj hatN
        obtain rfl := Option.some.inj hatTens
        obtain rfl := Option.some.inj hatUnits
        exact ⟨⟨⟨⟨Option.some.inj hstar, hi⟩, hn⟩, htens⟩, hunits⟩
    rw [← hguard]
    split
    · next hall => simp [hall, eq_comm]
    · next hnot => simp [hnot]
  · -- too short a text
    next hshort =>
    refine iff_of_false nofun ?_
    rintro ⟨h, -⟩
    obtain ⟨units, hlast, -⟩ := h.units
    obtain ⟨hlength, -⟩ := List.getElem?_eq_some_iff.mp hlast
    match cs, hlength with
    | star :: i :: n :: tens :: units :: rest, _ => exact hshort star i n tens units rest rfl

theorem indicator?_eq_none_iff : indicator? cs = none ↔ ¬ IndicatorAt cs 0 := by
  rw [Option.eq_none_iff_forall_ne_some]
  constructor
  · exact fun hnone h => hnone _ (indicator?_eq_some_iff.mpr ⟨h, rfl⟩)
  · exact fun hnot text htext => hnot (indicator?_eq_some_iff.mp htext).1

theorem IndicatorAt.length_take (h : IndicatorAt cs 0) : (cs.take 5).length = 5 := by
  obtain ⟨c, hlast, -⟩ := h.units
  have hlength := (List.getElem?_eq_some_iff.mp hlast).1
  rw [List.length_take]
  omega

end

/-! ### The scan -/

/-- One character further: an indicator that the text begins with comes first. -/
theorem indicatorUses_cons_of_indicatorAt {column : ℕ} {c : Char} {cs : List Char}
    (h : IndicatorAt (c :: cs) 0) :
    indicatorUses column (c :: cs) =
      ⟨String.ofList ((c :: cs).take 5), column⟩ :: indicatorUses (column + 1) cs := by
  rw [indicatorUses, indicator?_eq_some_iff.mpr ⟨h, rfl⟩]

theorem indicatorUses_cons_of_not {column : ℕ} {c : Char} {cs : List Char}
    (h : ¬ IndicatorAt (c :: cs) 0) :
    indicatorUses column (c :: cs) = indicatorUses (column + 1) cs := by
  rw [indicatorUses, indicator?_eq_none_iff.mpr h]

/-- **The scan finds exactly what is written**, with its five characters and its column. -/
theorem mem_indicatorUses_iff {column : ℕ} {cs : List Char} {use : IndicatorUse} :
    use ∈ indicatorUses column cs ↔
      ∃ p, IndicatorAt cs p ∧ use = ⟨String.ofList ((cs.take (p + 5)).drop p), column + p⟩ := by
  induction cs generalizing column with
  | nil =>
    refine iff_of_false List.not_mem_nil ?_
    rintro ⟨p, h, -⟩
    exact not_indicatorAt_nil h
  | cons c cs ih =>
    -- what is found behind the first character, in positions of the whole text
    have hrest : use ∈ indicatorUses (column + 1) cs ↔ ∃ p, IndicatorAt (c :: cs) (p + 1) ∧
        use = ⟨String.ofList (((c :: cs).take (p + 1 + 5)).drop (p + 1)), column + (p + 1)⟩ := by
      rw [ih]
      refine exists_congr fun p => and_congr indicatorAt_cons_succ.symm ?_
      rw [Nat.add_right_comm p 1 5, List.take_succ_cons, List.drop_succ_cons,
        Nat.add_assoc column 1 p, Nat.add_comm 1 p]
    by_cases h : IndicatorAt (c :: cs) 0
    · rw [indicatorUses_cons_of_indicatorAt h, List.mem_cons, hrest]
      constructor
      · rintro (rfl | ⟨p, hp, huse⟩)
        · exact ⟨0, h, rfl⟩
        · exact ⟨p + 1, hp, huse⟩
      · rintro ⟨p, hp, huse⟩
        cases p with
        | zero => exact .inl huse
        | succ p => exact .inr ⟨p, hp, huse⟩
    · rw [indicatorUses_cons_of_not h, hrest]
      constructor
      · rintro ⟨p, hp, huse⟩
        exact ⟨p + 1, hp, huse⟩
      · rintro ⟨p, hp, huse⟩
        cases p with
        | zero => exact absurd hp h
        | succ p => exact ⟨p, hp, huse⟩

/-- **Indicators are found from left to right**, each behind the five columns of the one before
it. -/
theorem pairwise_indicatorUses (column : ℕ) (cs : List Char) :
    (indicatorUses column cs).Pairwise fun a b => a.column + 5 ≤ b.column := by
  induction cs generalizing column with
  | nil => exact List.Pairwise.nil
  | cons c cs ih =>
    by_cases h : IndicatorAt (c :: cs) 0
    · rw [indicatorUses_cons_of_indicatorAt h, List.pairwise_cons]
      refine ⟨fun use huse => ?_, ih (column + 1)⟩
      obtain ⟨p, hp, rfl⟩ := mem_indicatorUses_iff.mp huse
      -- indicators do not overlap
      have hfar := h.add_five_le (indicatorAt_cons_succ.mpr hp) (Nat.succ_pos p)
      show column + 5 ≤ column + 1 + p
      omega
    · rw [indicatorUses_cons_of_not h]
      exact ih (column + 1)

/-! ### A search by bytes -/

/-- The bytes of the indicators, first byte and the byte behind, in a text that begins at byte
`offset`.  The search goes on behind each indicator that it finds: `skip` characters of the last one
are still to be passed. -/
def leftmostRanges (skip offset : ℕ) : List Char → List (ℕ × ℕ)
  | [] => []
  | c :: cs =>
    match skip with
    | skip + 1 => leftmostRanges skip (offset + c.utf8Size) cs
    | 0 =>
      match indicator? (c :: cs) with
      | some text =>
        (offset, offset + String.utf8Len text) ::
          leftmostRanges (text.length - 1) (offset + c.utf8Size) cs
      | none => leftmostRanges 0 (offset + c.utf8Size) cs

end Chars

/-- An indicator read from its bytes: the characters in front of the first byte are counted for its
column. -/
def IndicatorUse.ofBytes (text : String) (bytes : ℕ × ℕ) : IndicatorUse :=
  { text := String.Pos.Raw.extract text ⟨bytes.1⟩ ⟨bytes.2⟩
    column := charLength (String.Pos.Raw.extract text 0 ⟨bytes.1⟩) + 1 }

namespace Chars

/-- What is read from the bytes of the characters behind `front`. -/
theorem ofBytes_append (front text rest : List Char) :
    IndicatorUse.ofBytes (String.ofList (front ++ (text ++ rest)))
        (String.utf8Len front, String.utf8Len front + String.utf8Len text) =
      ⟨String.ofList text, front.length + 1⟩ := by
  have hfront := String.extract_of_valid [] front (text ++ rest)
  have htext := String.extract_of_valid front text rest
  rw [List.append_assoc] at htext
  rw [List.nil_append, String.utf8Len_nil, Nat.zero_add] at hfront
  rw [IndicatorUse.ofBytes, htext]
  show IndicatorUse.mk _ (charLength (String.Pos.Raw.extract _ ⟨0⟩ _) + 1) = _
  rw [hfront, charLength, String.toList_ofList]

/-- **A search that goes on behind each indicator finds the same**, in the same columns.  What it
passes are the characters of an indicator behind its asterisk, at which no other one begins. -/
theorem map_leftmostRanges (front cs : List Char) {skip : ℕ} (hskip : ∀ c ∈ cs.take skip, c ≠ '*') :
    (leftmostRanges skip (String.utf8Len front) cs).map
      (IndicatorUse.ofBytes (String.ofList (front ++ cs))) =
      indicatorUses (front.length + 1) cs := by
  induction cs generalizing front skip with
  | nil => rfl
  | cons c cs ih =>
    -- the first character joins what has been passed
    have hnext : ∀ {skip : ℕ}, (∀ c ∈ cs.take skip, c ≠ '*') →
        (leftmostRanges skip (String.utf8Len front + c.utf8Size) cs).map
            (IndicatorUse.ofBytes (String.ofList (front ++ c :: cs))) =
          indicatorUses (front.length + 1 + 1) cs := by
      intro skip hskip
      have h := ih (front ++ [c]) hskip
      rw [String.utf8Len_append, List.length_append, ← List.append_cons] at h
      simpa using h
    cases skip with
    | succ skip =>
      -- a character of the last indicator: no other one begins with it
      have hnot : ¬ IndicatorAt (c :: cs) 0 := fun h => hskip c (by simp) (Option.some.inj h.star)
      rw [indicatorUses_cons_of_not hnot]
      exact hnext fun d hd => hskip d (by simp [hd])
    | zero =>
      by_cases h : IndicatorAt (c :: cs) 0
      · -- the four characters behind the asterisk are no asterisks
        have hpassed : ∀ d ∈ cs.take 4, d ≠ '*' := by
          rintro d hd rfl
          obtain ⟨i, hi, hat⟩ := List.mem_take_iff_getElem.mp hd
          refine h.getElem?_ne_star (Nat.succ_pos i) (by omega) ?_
          rw [List.getElem?_cons_succ, List.getElem?_eq_getElem (by omega), hat]
        rw [leftmostRanges, indicator?_eq_some_iff.mpr ⟨h, rfl⟩,
          indicatorUses_cons_of_indicatorAt h]
        simp only [List.map_cons, h.length_take]
        rw [hnext hpassed]
        have hread := ofBytes_append front ((c :: cs).take 5) ((c :: cs).drop 5)
        rw [List.take_append_drop] at hread
        rw [hread]
      · rw [leftmostRanges, indicator?_eq_none_iff.mpr h, indicatorUses_cons_of_not h]
        exact hnext (by simp)

end Chars

/-! ### Texts and lines -/

theorem indicatorUses_eq_leftmostRanges (text : String) :
    indicatorUses text = (Chars.leftmostRanges 0 0 text.toList).map
      (IndicatorUse.ofBytes text) := by
  have hfirst : ∀ c ∈ text.toList.take 0, c ≠ '*' := by simp
  have h := Chars.map_leftmostRanges [] text.toList hfirst
  rw [List.nil_append, String.ofList_toList] at h
  exact h.symm

theorem mem_indicatorUses_iff {text : String} {use : IndicatorUse} :
    use ∈ indicatorUses text ↔
      ∃ p, Chars.IndicatorAt text.toList p ∧ use = ⟨slice text p (p + 5), p + 1⟩ := by
  rw [indicatorUses, Chars.mem_indicatorUses_iff]
  refine exists_congr fun p => and_congr_right fun _ => ?_
  rw [slice, Nat.add_comm 1 p]

theorem charLength_of_mem_indicatorUses {text : String} {use : IndicatorUse}
    (h : use ∈ indicatorUses text) : charLength use.text = 5 := by
  obtain ⟨p, hp, rfl⟩ := mem_indicatorUses_iff.mp h
  obtain ⟨c, hlast, -⟩ := hp.units
  have hlength := (List.getElem?_eq_some_iff.mp hlast).1
  simp [charLength, slice]
  omega

theorem line_of_mem_lineIndicators (line : Line) :
    ∀ issue ∈ lineIndicators line, issue.line = line.number := by
  intro issue hissue
  unfold lineIndicators at hissue
  split at hissue
  · cases hissue
  · obtain ⟨use, -, rfl⟩ := List.mem_map.mp hissue
    rfl

/-- The columns of the findings on indicators, first and last. -/
theorem map_columns_lineIndicators {line : Line} (hcomment : line.isComment = false) :
    (lineIndicators line).map (fun issue => (issue.column, issue.endColumn)) =
      (indicatorUses line.raw).map fun use => (some use.column, some (use.column + 4)) := by
  rw [lineIndicators, hcomment, if_neg Bool.false_ne_true, List.map_map]
  refine List.map_congr_left fun use huse => ?_
  simp [indicatorIssue, charLength_of_mem_indicatorUses huse]

/-- **The indicators of a text.**  They are listed from left to right, each behind the five columns
of the one before it, and are exactly those that are written, each with the five characters in its
columns; a search by bytes that goes on behind each one finds the same.  On each line of a source
that is no comment the findings on indicators take up these columns, and on a comment there are
none. -/
theorem indicatorUses_exact :
    (∀ text : String,
      (indicatorUses text).Pairwise (fun a b => a.column + 5 ≤ b.column) ∧
        (∀ use, use ∈ indicatorUses text ↔
          ∃ p, Chars.IndicatorAt text.toList p ∧ use.column = p + 1 ∧
            use.text = slice text p (p + 5)) ∧
        (∀ use ∈ indicatorUses text,
          use.text = slice text (use.column - 1) (use.column + 4) ∧ charLength use.text = 5) ∧
        indicatorUses text =
          (Chars.leftmostRanges 0 0 text.toList).map (IndicatorUse.ofBytes text)) ∧
      ∀ source : String, ∀ line ∈ classify source,
        ((checkIndicators (classify source)).filter (·.line == line.number)).map
            (fun issue => (issue.column, issue.endColumn)) =
          if line.isComment then []
          else (indicatorUses line.raw).map fun use =>
            (some use.column, some (use.column + 4)) := by
  constructor
  · intro text
    refine ⟨Chars.pairwise_indicatorUses 1 text.toList, fun use => ?_, fun use huse => ?_,
      indicatorUses_eq_leftmostRanges text⟩
    · rw [mem_indicatorUses_iff]
      refine exists_congr fun p => and_congr_right fun _ => ?_
      rw [IndicatorUse.mk.injEq, and_comm]
    · refine ⟨?_, charLength_of_mem_indicatorUses huse⟩
      obtain ⟨p, -, rfl⟩ := mem_indicatorUses_iff.mp huse
      rfl
  · intro source line hline
    rw [checkIndicators,
      filter_line_flatMap line_of_mem_lineIndicators (nodup_number_classify source) hline]
    cases hcomment : line.isComment with
    | true => simp [lineIndicators, hcomment]
    | false => simpa using map_columns_lineIndicators hcomment

/-- Two indicators side by side, behind characters of several bytes. -/
example : indicatorUses "漢é*In03*iN42" = [⟨"*In03", 3⟩, ⟨"*iN42", 8⟩] ∧
    Chars.leftmostRanges 0 0 "漢é*In03*iN42".toList = [(5, 10), (10, 15)] := by
  decide

end RpgLint
