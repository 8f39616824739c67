import Mathlib.Data.List.DropRight
import Mathlib.Data.List.TakeWhile
import RpgLint.Text.Characters

/-!
# Trimmed texts

Trimming takes blanks away at both ends and nothing else.  So blanks that are put at an end do not
matter, and a character that is no blank keeps all that stands between it and the other end.

## Main results

* `Chars.dropEnd_cons`, `Chars.dropEnd_append_cons` — what is dropped at the end, read from the
  front.
* `Chars.trim_append_blanks`, `Chars.trim_blanks_append` — blanks at the ends.
* `Chars.countP_trim` — what is counted besides blanks.
* `Chars.exists_append_trim`, `Chars.exists_of_trim_eq_cons` — where a trimmed text stands.
* `Chars.trim_eq_nil_iff`, `isEmpty_trim` — the texts of which nothing is left.
-/

namespace RpgLint

namespace Chars

section

variable {p : Char → Bool} {c : Char}

/-- Leading characters are dropped from the front of a list as from the whole. -/
theorem dropWhile_take (p : Char → Bool) (n : Nat) (cs : List Char) :
    (cs.take n).dropWhile p = (cs.dropWhile p).take (n - (cs.takeWhile p).length) := by
  induction cs generalizing n with
  | nil => simp
  | cons c cs ih =>
    cases n with
    | zero => simp
    | succ n => by_cases hc : p c <;> simp [hc, ih]

/-- Leading characters end in front of the first one of another kind. -/
theorem length_takeWhile_le {cs : List Char} {i : Nat} (hat : cs[i]? = some c) (hc : p c = false) :
    (cs.takeWhile p).length ≤ i := by
  by_contra hlong
  -- otherwise the character is one of the leading ones
  have hmem : c ∈ cs.takeWhile p := by
    rw [List.mem_iff_getElem?]
    refine ⟨i, ?_⟩
    rw [← hat, List.prefix_iff_eq_take.mp (List.takeWhile_prefix p),
      List.getElem?_take_of_lt (by omega)]
  rw [List.mem_takeWhile_imp hmem] at hc
  cases hc

/-- The characters that a list loses at its end. -/
theorem dropEnd_append (p : Char → Bool) (cs : List Char) :
    ∃ rest, cs = dropEnd p cs ++ rest ∧ ∀ c ∈ rest, p c = true := by
  refine ⟨(cs.reverse.takeWhile p).reverse, ?_, ?_⟩
  · rw [dropEnd, ← List.reverse_append, List.takeWhile_append_dropWhile, List.reverse_reverse]
  · intro c hc
    exact List.mem_takeWhile_imp (List.mem_reverse.mp hc)

theorem dropEnd_eq_nil_iff {cs : List Char} : dropEnd p cs = [] ↔ ∀ c ∈ cs, p c = true :=
  List.rdropWhile_eq_nil_iff

theorem dropEnd_cons (p : Char → Bool) (c : Char) (cs : List Char) :
    dropEnd p (c :: cs) = if p c && cs.all p then [] else c :: dropEnd p cs := by
  unfold dropEnd
  rw [List.reverse_cons, List.dropWhile_append]
  cases hall : cs.all p with
  | true =>
    -- all of the rest is dropped, and the first character decides about itself
    have hnil : cs.reverse.dropWhile p = [] := by
      rw [List.dropWhile_eq_nil_iff]
      exact fun d hd => List.all_eq_true.mp hall d (List.mem_reverse.mp hd)
    cases hc : p c <;> simp [hnil, hc]
  | false =>
    -- something of the rest is kept, and with it the first character
    have hne : (cs.reverse.dropWhile p).isEmpty = false := by
      rw [List.isEmpty_eq_false_iff, ne_eq, List.dropWhile_eq_nil_iff]
      intro hevery
      rw [List.all_eq_true.mpr fun d hd => hevery d (List.mem_reverse.mpr hd)] at hall
      cases hall
    simp [hne]

/-- Characters that are dropped anyway may as well not be there. -/
theorem dropEnd_append_of_all {tail : List Char} (h : ∀ c ∈ tail, p c = true) (cs : List Char) :
    dropEnd p (cs ++ tail) = dropEnd p cs := by
  rw [dropEnd, List.reverse_append,
    List.dropWhile_append_of_pos fun c hc => h c (List.mem_reverse.mp hc), dropEnd]

/-- Nothing is dropped in front of a character that is not. -/
theorem dropEnd_append_cons (hc : p c = false) (front tail : List Char) :
    dropEnd p (front ++ c :: tail) = front ++ c :: dropEnd p tail := by
  induction front with
  | nil =>
    rw [List.nil_append, List.nil_append, dropEnd_cons, hc, Bool.false_and,
      if_neg Bool.false_ne_true]
  | cons d front ih =>
    have hnot : (p d && (front ++ c :: tail).all p) = false := by simp [hc]
    rw [List.cons_append, dropEnd_cons, hnot, if_neg Bool.false_ne_true, ih, List.cons_append]

/-- What is left of the end of a text is the end of what is left. -/
theorem dropEnd_suffix (front tail : List Char) : dropEnd p tail <:+ dropEnd p (front ++ tail) := by
  induction front with
  | nil => exact List.suffix_rfl
  | cons d front ih =>
    rw [List.cons_append, dropEnd_cons]
    split
    · next hall =>
      have htail : ∀ c ∈ tail, p c = true := fun c hc =>
        List.all_eq_true.mp (Bool.and_eq_true_iff.mp hall).2 c (List.mem_append_right front hc)
      exact dropEnd_eq_nil_iff.mpr htail ▸ List.nil_suffix
    · exact ih.trans (List.suffix_cons d _)

/-- A character that is not dropped stands where it stood. -/
theorem getElem?_dropEnd {cs : List Char} {i : Nat} (hat : cs[i]? = some c) (hc : p c = false) :
    (dropEnd p cs)[i]? = some c := by
  have hsplit : cs.take i ++ c :: cs.drop (i + 1) = cs := by
    obtain ⟨hi, rfl⟩ := List.getElem?_eq_some_iff.mp hat
    rw [← List.drop_eq_getElem_cons hi, List.take_append_drop]
  have hlength : (cs.take i).length = i := by
    rw [List.length_take, Nat.min_eq_left (Nat.le_of_lt (List.getElem?_eq_some_iff.mp hat).1)]
  rw [← hsplit, dropEnd_append_cons hc, List.getElem?_append_right (Nat.le_of_eq hlength), hlength,
    Nat.sub_self, List.getElem?_cons_zero]

end

/-! ### Words at an end -/

section

variable {c : Char} {word : List Char} (hc : c ∉ word) (front tail : List Char)

include hc

/-- A word at the front ends before a character that is not in it. -/
theorem prefix_append_cons_iff : word <+: front ++ c :: tail ↔ word <+: front := by
  constructor
  · intro h
    rcases List.prefix_or_prefix_of_prefix h (List.prefix_append front (c :: tail))
      with hfront | ⟨more, rfl⟩
    · exact hfront
    · -- the word goes on behind the front, so that its next character is the one not in it
      rw [List.prefix_append_right_inj] at h
      cases more with
      | nil =>
        exact ⟨[], by simp⟩
      | cons d more =>
        obtain ⟨rfl, -⟩ := List.cons_prefix_cons.mp h
        exact absurd (List.mem_append_right front List.mem_cons_self) hc
  · exact fun h => h.trans (List.prefix_append front (c :: tail))

/-- A word at the end begins behind a character that is not in it. -/
theorem suffix_append_cons_iff : word <:+ front ++ c :: tail ↔ word <:+ tail := by
  have hreverse : c ∉ word.reverse := fun hmem => hc (List.mem_reverse.mp hmem)
  -- read from the end, the word stands at the front
  rw [← List.reverse_prefix, ← List.reverse_prefix, List.reverse_append, List.reverse_cons,
    List.append_assoc]
  exact prefix_append_cons_iff hreverse tail.reverse front.reverse

end

/-! ### Both ends -/

section

variable {c : Char} {blanks : List Char}

/-- Blanks behind a text do not matter. -/
theorem trim_append_blanks (h : ∀ b ∈ blanks, isBlank b = true) (cs : List Char) :
    trim (cs ++ blanks) = trim cs := by
  rw [trim, dropStart, List.dropWhile_append, trim, dropStart]
  split
  · next hnone =>
    rw [List.isEmpty_iff.mp hnone, List.dropWhile_eq_nil_iff.mpr h]
  · exact dropEnd_append_of_all h _

/-- Blanks in front of a text do not matter. -/
theorem trim_blanks_append (h : ∀ b ∈ blanks, isBlank b = true) (cs : List Char) :
    trim (blanks ++ cs) = trim cs := by
  rw [trim, dropStart, List.dropWhile_append_of_pos h, trim, dropStart]

theorem trim_cons (hc : isBlank c = false) (cs : List Char) :
    trim (c :: cs) = c :: dropEnd isBlank cs := by
  rw [trim, dropStart, List.dropWhile_cons_of_neg (Bool.eq_false_iff.mp hc), dropEnd_cons, hc,
    Bool.false_and, if_neg Bool.false_ne_true]

theorem trim_dropEnd (cs : List Char) : trim (dropEnd isBlank cs) = trim cs := by
  obtain ⟨rest, hsplit, hrest⟩ := dropEnd_append isBlank cs
  calc trim (dropEnd isBlank cs)
      = trim (dropEnd isBlank cs ++ rest) := (trim_append_blanks hrest _).symm
    _ = trim cs := by rw [← hsplit]

/-- A word without blanks ends a text whether or not the blanks in front are dropped. -/
theorem suffix_dropEnd_iff {word : List Char} (hword : ∀ d ∈ word, isBlank d = false)
    (cs : List Char) :
    word <:+ dropEnd isBlank cs ↔ word <:+ trim cs := by
  induction cs with
  | nil => exact Iff.rfl
  | cons c cs ih =>
    cases hc : isBlank c with
    | false => rw [trim_cons hc, dropEnd_cons, hc, Bool.false_and, if_neg Bool.false_ne_true]
    | true =>
      have hnot : c ∉ word := fun hmem => by rw [hword c hmem] at hc; cases hc
      have hblank : ∀ b ∈ [c], isBlank b = true := fun b hb => List.mem_singleton.mp hb ▸ hc
      rw [← List.singleton_append, trim_blanks_append hblank, ← ih, List.singleton_append,
        dropEnd_cons, hc, Bool.true_and]
      split
      · -- blanks only: nothing is left of either
        next hall => rw [dropEnd_eq_nil_iff.mpr (List.all_eq_true.mp hall)]
      · exact suffix_append_cons_iff hnot [] (dropEnd isBlank cs)

/-- Blanks are dropped in front of a character that is none. -/
theorem dropStart_append_cons (hc : isBlank c = false) (front tail : List Char) :
    dropStart isBlank (front ++ c :: tail) = dropStart isBlank front ++ c :: tail := by
  rw [dropStart, dropStart, List.dropWhile_append]
  split
  · next hnone =>
    rw [List.isEmpty_iff.mp hnone, List.dropWhile_cons_of_neg (Bool.eq_false_iff.mp hc),
      List.nil_append]
  · rfl

theorem dropEnd_isBlank_eq_self {cs : List Char} (h : ∀ d ∈ cs, isBlank d = false) :
    dropEnd isBlank cs = cs :=
  List.rdropWhile_eq_self_iff.mpr fun hne => Bool.eq_false_iff.mp (h _ (List.getLast_mem hne))

/-- A text without blanks has nothing to lose. -/
theorem trim_eq_self {cs : List Char} (h : ∀ d ∈ cs, isBlank d = false) : trim cs = cs := by
  cases cs with
  | nil => rfl
  | cons c cs =>
    obtain ⟨hc, hcs⟩ := List.forall_mem_cons.mp h
    rw [trim_cons hc, dropEnd_isBlank_eq_self hcs]

theorem length_trim_le (cs : List Char) : (trim cs).length ≤ cs.length := by
  obtain ⟨rest, hsplit, -⟩ := dropEnd_append isBlank (dropStart isBlank cs)
  have hlength := congrArg List.length hsplit
  rw [List.length_append] at hlength
  have hstart : (dropStart isBlank cs).length ≤ cs.length := List.length_dropWhile_le isBlank cs
  rw [trim]
  omega

/-- Trimming loses nothing that is counted when blanks are not. -/
theorem countP_trim {p : Char → Bool} (hp : ∀ b, isBlank b = true → p b = false) (cs : List Char) :
    (trim cs).countP p = cs.countP p := by
  -- what is cut off at either end is not counted
  have hblanks : ∀ {blanks : List Char}, (∀ b ∈ blanks, isBlank b = true) → blanks.countP p = 0 :=
    fun h => List.countP_eq_zero.mpr fun b hb => Bool.not_eq_true _ ▸ hp b (h b hb)
  obtain ⟨tail, hsplit, htail⟩ := dropEnd_append isBlank (dropStart isBlank cs)
  calc (trim cs).countP p
      = (trim cs ++ tail).countP p := by rw [List.countP_append, hblanks htail, Nat.add_zero]
    _ = (cs.dropWhile isBlank).countP p := by rw [trim, ← hsplit]
    _ = (cs.takeWhile isBlank ++ cs.dropWhile isBlank).countP p := by
        rw [List.countP_append, hblanks fun b hb => List.mem_takeWhile_imp hb, Nat.zero_add]
    _ = cs.countP p := by rw [List.takeWhile_append_dropWhile]

/-- Trimming takes blanks away at both ends, and nothing else. -/
theorem exists_append_trim (cs : List Char) :
    ∃ front back, cs = front ++ (trim cs ++ back) ∧ (∀ b ∈ front, isBlank b = true) ∧
      ∀ b ∈ back, isBlank b = true := by
  obtain ⟨back, hsplit, hback⟩ := dropEnd_append isBlank (dropStart isBlank cs)
  refine ⟨cs.takeWhile isBlank, back, ?_, fun b hb => List.mem_takeWhile_imp hb, hback⟩
  rw [trim, ← hsplit, List.takeWhile_append_dropWhile]

/-- Nothing is left of blanks, and of nothing else. -/
theorem trim_eq_nil_iff {cs : List Char} : trim cs = [] ↔ ∀ c ∈ cs, isBlank c = true := by
  constructor
  · intro hnil
    obtain ⟨front, back, hsplit, hfront, hback⟩ := exists_append_trim cs
    rw [hnil, List.nil_append] at hsplit
    rw [hsplit]
    exact List.forall_mem_append.mpr ⟨hfront, hback⟩
  · intro hblank
    rw [trim, dropEnd_eq_nil_iff]
    exact fun c hc => hblank c ((List.dropWhile_sublist isBlank).subset hc)

/-- The first character of a trimmed text stands behind blanks. -/
theorem exists_of_trim_eq_cons {cs rest : List Char} (h : trim cs = c :: rest) :
    ∃ blanks behind, cs = blanks ++ c :: behind ∧ (∀ b ∈ blanks, isBlank b = true) ∧
      isBlank c = false := by
  obtain ⟨tail, hsplit, -⟩ := dropEnd_append isBlank (dropStart isBlank cs)
  rw [← trim, h, List.cons_append] at hsplit
  refine ⟨cs.takeWhile isBlank, rest ++ tail, ?_, fun b hb => List.mem_takeWhile_imp hb, ?_⟩
  · rw [← hsplit, List.takeWhile_append_dropWhile]
  · -- the text without its leading blanks begins with no blank
    have hhead := List.head?_dropWhile_not isBlank cs
    rwa [← dropStart, hsplit] at hhead

/-- A trimmed text begins with no blank. -/
theorem isBlank_of_mem_head?_trim {cs : List Char} (h : c ∈ (trim cs).head?) :
    isBlank c = false := by
  obtain ⟨rest, hrest⟩ := List.head?_eq_some_iff.mp h
  obtain ⟨-, -, -, -, hc⟩ := exists_of_trim_eq_cons hrest
  exact hc

/-- A trimmed text ends with no blank. -/
theorem isBlank_of_mem_getLast?_trim {cs : List Char} (h : c ∈ (trim cs).getLast?) :
    isBlank c = false := by
  obtain ⟨hne, rfl⟩ := List.mem_getLast?_eq_getLast h
  exact Bool.eq_false_iff.mpr (List.rdropWhile_last_not isBlank (dropStart isBlank cs) hne)

end

end Chars

/-- Nothing is left of a text exactly when it holds blanks only. -/
theorem isEmpty_trim (s : String) : (trim s).isEmpty = isBlankText s := by
  rw [Bool.eq_iff_iff, String.isEmpty_iff, ← String.toList_eq_nil_iff, trim, String.toList_ofList,
    Chars.trim_eq_nil_iff]
  exact List.all_eq_true.symm

end RpgLint
