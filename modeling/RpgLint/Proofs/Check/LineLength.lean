import RpgLint.Check.Length
import RpgLint.Proofs.Text.DoubleByte

/-!
# Line length in characters and in bytes

A line is never shorter in bytes than in characters, so that a limit on bytes reports whatever the
same limit on characters does.  The two limits report the same lines only as long as there is no
double-byte character: the line that holds one is too long in bytes for a limit that its characters
just meet.

## Main results

* `isSome_lengthIssue?_iff` — which lines are reported.
* `lengthIssue?_eq_of_hasDoubleByte` — a line without double-byte characters has the same finding in
  both.
* `forall_isSome_lengthIssue?_iff` — when both report a line under the same limits.
* `doubleByte_lengths_consistent` — lengths of texts, of two texts as one, and of lines against a
  limit.
-/

namespace RpgLint

theorem isSome_lengthIssue?_iff (limit : LengthLimit) (line : Line) :
    (lengthIssue? limit line).isSome ↔ limit.max < limit.measure line.raw := by
  by_cases hlong : limit.max < limit.measure line.raw
  · simp [lengthIssue?, Nat.not_le.mpr hlong, hlong]
  · simp [lengthIssue?, Nat.not_lt.mp hlong]

theorem measure_le_measure (max : ℕ) (raw : String) :
    LengthLimit.measure ⟨max, false⟩ raw ≤ LengthLimit.measure ⟨max, true⟩ raw := by
  show charLength raw ≤ byteLength raw
  rw [byteLength_eq]
  omega

/-- A line that has too many characters has too many bytes. -/
theorem isSome_lengthIssue?_of_characters {max : ℕ} {line : Line}
    (h : (lengthIssue? ⟨max, false⟩ line).isSome) : (lengthIssue? ⟨max, true⟩ line).isSome := by
  rw [isSome_lengthIssue?_iff] at h ⊢
  exact h.trans_le (measure_le_measure max line.raw)

/-- A line without double-byte characters has the same finding in both, if it has one. -/
theorem lengthIssue?_eq_of_hasDoubleByte {line : Line} (h : hasDoubleByte line.raw = false)
    (max : ℕ) :
    lengthIssue? ⟨max, false⟩ line = lengthIssue? ⟨max, true⟩ line := by
  have hmeasure : byteLength line.raw = charLength line.raw :=
    (byteLength_eq_charLength_iff line.raw).mpr h
  simp [lengthIssue?, LengthLimit.measure, hmeasure, h]

/-- **A line is reported under the same limits exactly when it holds no double-byte character.** -/
theorem forall_isSome_lengthIssue?_iff (line : Line) :
    (∀ max, (lengthIssue? ⟨max, false⟩ line).isSome ↔ (lengthIssue? ⟨max, true⟩ line).isSome) ↔
      hasDoubleByte line.raw = false := by
  constructor
  · intro hagree
    -- the limit that the characters just meet
    have hmeets := hagree (charLength line.raw)
    rw [isSome_lengthIssue?_iff, isSome_lengthIssue?_iff] at hmeets
    have hshort : ¬ charLength line.raw < byteLength line.raw :=
      fun hlong => lt_irrefl _ (hmeets.mpr hlong)
    have heq := byteLength_eq line.raw
    exact (byteLength_eq_charLength_iff line.raw).mp (by omega)
  · intro hnone max
    rw [lengthIssue?_eq_of_hasDoubleByte hnone max]

/-- The lines that are reported, by their numbers. -/
theorem map_line_checkLength (limit : LengthLimit) (lines : List Line) :
    (checkLength limit lines).map (·.line) =
      (lines.filter fun line => limit.max < limit.measure line.raw).map (·.number) := by
  induction lines with
  | nil => rfl
  | cons line lines ih =>
    rw [checkLength] at ih ⊢
    by_cases hlong : limit.max < limit.measure line.raw
    · have hfinding : ∃ issue, lengthIssue? limit line = some issue ∧ issue.line = line.number := by
        simp only [lengthIssue?, if_neg (Nat.not_le.mpr hlong)]
        exact ⟨_, rfl, rfl⟩
      obtain ⟨issue, hissue, hline⟩ := hfinding
      rw [List.filterMap_cons_some hissue, List.map_cons, hline, ih,
        List.filter_cons_of_pos (by simpa using hlong), List.map_cons]
    · have hnone : lengthIssue? limit line = none := if_pos (Nat.not_lt.mp hlong)
      rw [List.filterMap_cons_none hnone, ih, List.filter_cons_of_neg (by simpa using hlong)]

/-- **Lengths of texts and lines.**  Bytes are characters, with a second byte for some of them and
two bytes for each run of those; the lengths of a text together are these numbers.  Two texts
written as one need two bytes less exactly when the first ends with a double-byte character and the
second begins with one.  A limit on bytes reports the lines that the same limit on characters
reports, and the two report a line under the same limits, then with the same finding, exactly when
it holds no double-byte character. -/
theorem doubleByte_lengths_consistent :
    (∀ s : String,
      byteLength s = charLength s + doubleByteCount s + shiftCharacters s ∧
        shiftCharacters s = 2 * {run : ℕ × ℕ | Chars.IsRun s.toList run.1 run.2}.encard ∧
        (LengthAnalysis.of s).Describes s) ∧
      (∀ a b : String,
        (byteLength (a ++ b) + if endsDoubleByte a && startsDoubleByte b then 2 else 0) =
          byteLength a + byteLength b) ∧
      (∀ max lines, ((checkLength ⟨max, false⟩ lines).map (·.line)).Sublist
        ((checkLength ⟨max, true⟩ lines).map (·.line))) ∧
      ∀ line : Line,
        (∀ max, (lengthIssue? ⟨max, false⟩ line).isSome → (lengthIssue? ⟨max, true⟩ line).isSome) ∧
          ((∀ max, (lengthIssue? ⟨max, false⟩ line).isSome ↔
            (lengthIssue? ⟨max, true⟩ line).isSome) ↔
            hasDoubleByte line.raw = false) ∧
          ((∀ max, lengthIssue? ⟨max, false⟩ line = lengthIssue? ⟨max, true⟩ line) ↔
            hasDoubleByte line.raw = false) := by
  refine ⟨fun s => ⟨byteLength_eq s, shiftCharacters_eq s, LengthAnalysis.describes_of s⟩,
    byteLength_append, ?_, ?_⟩
  · intro max lines
    rw [map_line_checkLength, map_line_checkLength]
    refine List.Sublist.map _ (List.monotone_filter_right lines fun line hlong => ?_)
    rw [decide_eq_true_eq] at hlong ⊢
    exact hlong.trans_le (measure_le_measure max line.raw)
  · intro line
    refine ⟨fun max => isSome_lengthIssue?_of_characters,
      forall_isSome_lengthIssue?_iff line, ?_, ?_⟩
    · -- the same finding, so that both report the line or neither does
      intro hsame
      refine (forall_isSome_lengthIssue?_iff line).mp fun max => ?_
      rw [hsame max]
    · exact lengthIssue?_eq_of_hasDoubleByte

/-- Two runs, each of two characters: eleven characters take nineteen bytes. -/
example :
    charLength "C あい x 漢字 y" = 11 ∧ doubleByteCount "C あい x 漢字 y" = 4 ∧
      shiftCharacters "C あい x 漢字 y" = 4 ∧ byteLength "C あい x 漢字 y" = 19 := by
  decide

end RpgLint
