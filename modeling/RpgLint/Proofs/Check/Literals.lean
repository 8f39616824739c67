import Mathlib.Algebra.Group.Nat.Even
import Mathlib.Algebra.Ring.Parity
import RpgLint.Check.Statement

/-!
# Text outside of literals

Quotes pair up from the left: one opens a literal and the next one closes it.  So a character stands
outside of literals when it is no quote and the quotes in front of it are even in number.  A last
quote without a partner opens nothing, and what stands from there on is kept.  The text without its
literals is what stands outside, and that is all that the counts of semicolons and parentheses read.

## Main definitions

* `Chars.LastQuote` — the last quote of a text.
* `Chars.Outside` — the positions outside of closed literals.
* `occurrencesOutside` — how often a character stands there.

## Main results

* `Chars.quotedInduction` — a text is read literal by literal.
* `Chars.stripLiterals_eq_outside` — what is left of a text.
* `Chars.count_quote_stripLiterals`, `Chars.stripLiterals_stripLiterals`,
  `Chars.stripLiterals_append` — the quotes that are left, and texts that are stripped twice or put
  together.
* `stripLiterals_keeps_outside` — the same for texts, and what the checks count.
-/

namespace RpgLint

namespace Chars

/-! ### Texts literal by literal -/

section

variable {front body tail text : List Char}

theorem afterQuote?_eq_none (h : '\'' ∉ tail) : afterQuote? tail = none := by
  induction tail with
  | nil => rfl
  | cons c tail ih =>
    obtain ⟨hc, htail⟩ := not_or.mp (mt List.mem_cons.mpr h)
    rw [afterQuote?, if_neg (Ne.symm hc), ih htail]

theorem afterQuote?_append (h : '\'' ∉ body) (rest : List Char) :
    afterQuote? (body ++ '\'' :: rest) = some rest := by
  induction body with
  | nil => rw [List.nil_append, afterQuote?, if_pos rfl]
  | cons c body ih =>
    obtain ⟨hc, hbody⟩ := not_or.mp (mt List.mem_cons.mpr h)
    rw [List.cons_append, afterQuote?, if_neg (Ne.symm hc), ih hbody]

/-- In front of the first quote everything is kept. -/
theorem stripLiterals_append_of_not_mem (h : '\'' ∉ front) (cs : List Char) :
    stripLiterals (front ++ cs) = front ++ stripLiterals cs := by
  induction front with
  | nil => rfl
  | cons c front ih =>
    obtain ⟨hc, hfront⟩ := not_or.mp (mt List.mem_cons.mpr h)
    rw [List.cons_append, stripLiterals, if_neg (Ne.symm hc), ih hfront, List.cons_append]

/-- A literal that is closed is taken out. -/
theorem stripLiterals_literal (h : '\'' ∉ body) (rest : List Char) :
    stripLiterals ('\'' :: (body ++ '\'' :: rest)) = stripLiterals rest := by
  have hclosed := afterQuote?_append h rest
  rw [stripLiterals, if_pos rfl]
  split
  · next other hother => rw [Option.some.inj (hother.symm.trans hclosed)]
  · next hnone => rw [hnone] at hclosed; cases hclosed

/-- A literal that is never closed is kept. -/
theorem stripLiterals_unclosed (h : '\'' ∉ tail) : stripLiterals ('\'' :: tail) = '\'' :: tail := by
  have hopen := afterQuote?_eq_none h
  rw [stripLiterals, if_pos rfl]
  split
  · next other hother => rw [hother] at hopen; cases hopen
  · rfl

theorem stripLiterals_of_not_mem (h : '\'' ∉ text) : stripLiterals text = text := by
  have hkept := stripLiterals_append_of_not_mem h []
  rwa [stripLiterals, List.append_nil] at hkept

/-- **A text is read literal by literal.**  It has no quote, or a single one, or begins with a
closed literal behind characters that are no quotes. -/
@[elab_as_elim]
theorem quotedInduction {motive : List Char → Prop}
    (plain : ∀ text, '\'' ∉ text → motive text)
    (unclosed : ∀ front tail, '\'' ∉ front → '\'' ∉ tail → motive (front ++ '\'' :: tail))
    (literal : ∀ front body rest, '\'' ∉ front → '\'' ∉ body → motive rest →
      motive (front ++ '\'' :: (body ++ '\'' :: rest)))
    (cs : List Char) : motive cs := by
  induction hlength : cs.length using Nat.strong_induction_on generalizing cs with
  | _ n ih =>
    -- the first quote, if there is one, and then the one that closes it
    by_cases hopens : '\'' ∈ cs
    · obtain ⟨front, behind, rfl, hfront⟩ := List.eq_append_cons_of_mem hopens
      by_cases hcloses : '\'' ∈ behind
      · obtain ⟨body, rest, rfl, hbody⟩ := List.eq_append_cons_of_mem hcloses
        have hshorter : rest.length < n := by
          rw [← hlength]
          simp only [List.length_append, List.length_cons]
          omega
        exact literal front body rest hfront hbody (ih rest.length hshorter rest rfl)
      · exact unclosed front behind hfront hcloses
    · exact plain cs hopens

end

/-! ### Quotes that are left -/

/-- The quote that is left is the one without a partner. -/
theorem count_quote_stripLiterals (cs : List Char) :
    (stripLiterals cs).count '\'' = cs.count '\'' % 2 := by
  induction cs using quotedInduction with
  | plain text h => rw [stripLiterals_of_not_mem h, List.count_eq_zero.mpr h]
  | unclosed front tail hfront htail =>
    rw [stripLiterals_append_of_not_mem hfront, stripLiterals_unclosed htail]
    simp [List.count_eq_zero.mpr hfront, List.count_eq_zero.mpr htail]
  | literal front body rest hfront hbody ih =>
    -- the two quotes of the literal do not change the parity
    rw [stripLiterals_append_of_not_mem hfront, stripLiterals_literal hbody, List.count_append, ih]
    simp only [List.count_append, List.count_cons_self, List.count_eq_zero.mpr hfront,
      List.count_eq_zero.mpr hbody]
    omega

/-- A single quote closes nothing. -/
theorem stripLiterals_of_count_le {cs : List Char} (h : cs.count '\'' ≤ 1) :
    stripLiterals cs = cs := by
  induction cs using quotedInduction with
  | plain text hplain => exact stripLiterals_of_not_mem hplain
  | unclosed front tail hfront htail =>
    rw [stripLiterals_append_of_not_mem hfront, stripLiterals_unclosed htail]
  | literal front body rest hfront hbody ih =>
    -- a closed literal has two quotes
    simp only [List.count_append, List.count_cons_self] at h
    omega

theorem stripLiterals_stripLiterals (cs : List Char) :
    stripLiterals (stripLiterals cs) = stripLiterals cs := by
  refine stripLiterals_of_count_le ?_
  -- one quote is left at most
  have hparity := Nat.mod_lt (cs.count '\'') Nat.two_pos
  rw [count_quote_stripLiterals]
  omega

/-- Behind text in which every literal is closed, reading begins anew. -/
theorem stripLiterals_append {a : List Char} (h : Even (a.count '\'')) (b : List Char) :
    stripLiterals (a ++ b) = stripLiterals a ++ stripLiterals b := by
  induction a using quotedInduction with
  | plain text hplain =>
    rw [stripLiterals_append_of_not_mem hplain, stripLiterals_of_not_mem hplain]
  | unclosed front tail hfront htail =>
    -- an odd number of quotes
    simp [List.count_eq_zero.mpr hfront, List.count_eq_zero.mpr htail] at h
  | literal front body rest hfront hbody ih =>
    have hrest : Even (rest.count '\'') := by
      simpa [List.count_eq_zero.mpr hfront, List.count_eq_zero.mpr hbody, Nat.even_add] using h
    have hsplit : front ++ '\'' :: (body ++ '\'' :: rest) ++ b =
        front ++ '\'' :: (body ++ '\'' :: (rest ++ b)) := by
      simp
    rw [hsplit, stripLiterals_append_of_not_mem hfront, stripLiterals_literal hbody, ih hrest,
      stripLiterals_append_of_not_mem hfront, stripLiterals_literal hbody, List.append_assoc]

/-! ### Positions outside of literals -/

/-- The last quote of the text stands at the position. -/
def LastQuote (cs : List Char) (p : ℕ) : Prop := cs[p]? = some '\'' ∧ '\'' ∉ cs.drop (p + 1)

/-- The position is outside of closed literals: no quote stands there, and an even number of quotes
in front, or it is at or behind the last one of an odd number of quotes. -/
def Outside (cs : List Char) (i : ℕ) : Prop :=
  (cs[i]? ≠ some '\'' ∧ Even ((cs.take i).count '\'')) ∨
    (Odd (cs.count '\'') ∧ ∃ p ≤ i, LastQuote cs p)

instance (cs : List Char) (p : ℕ) : Decidable (LastQuote cs p) :=
  inferInstanceAs (Decidable (_ ∧ _))

instance (cs : List Char) (i : ℕ) : Decidable (Outside cs i) := inferInstanceAs (Decidable (_ ∨ _))

theorem LastQuote.le_of_mem_drop {cs : List Char} {p n : ℕ} (h : LastQuote cs p)
    (hmem : '\'' ∈ cs.drop n) : n ≤ p := by
  by_contra hlt
  obtain ⟨more, rfl⟩ := Nat.le.dest (Nat.lt_of_not_le hlt)
  rw [← List.drop_drop] at hmem
  exact h.2 (List.mem_of_mem_drop hmem)

section

variable {front body rest tail : List Char} (hfront : Even (front.count '\''))

include hfront

/-- Characters that are no quotes, behind closed literals. -/
theorem outside_plain (hbody : '\'' ∉ body) (rest : List Char) {i : ℕ} (hi : i < body.length) :
    Outside (front ++ (body ++ rest)) (front.length + i) := by
  refine .inl ⟨?_, ?_⟩
  · rw [List.getElem?_append_right (Nat.le_add_right _ _), Nat.add_sub_cancel_left,
      List.getElem?_append_left hi]
    exact fun hquote => hbody (List.mem_of_getElem? hquote)
  · -- the quotes in front are those in front of the characters
    have hnone : (body.take i).count '\'' = 0 :=
      List.count_eq_zero.mpr fun hquote => hbody (List.mem_of_mem_take hquote)
    rw [List.take_length_add_append, List.take_append_of_le_length (Nat.le_of_lt hi),
      List.count_append, hnone]
    exact hfront

/-- An odd number of quotes leaves one for the text behind a closed literal. -/
theorem mem_of_odd_count (hbody : '\'' ∉ body)
    (hodd : Odd ((front ++ '\'' :: (body ++ '\'' :: rest)).count '\'')) :
    '\'' ∈ rest := by
  by_contra hnone
  have hsame : (front ++ '\'' :: (body ++ '\'' :: rest)).count '\'' = front.count '\'' + 2 := by
    simp [List.count_eq_zero.mpr hbody, List.count_eq_zero.mpr hnone]
  rw [hsame, ← Nat.not_even_iff_odd, Nat.even_add] at hodd
  exact hodd (iff_of_true hfront even_two)

/-- A closed literal with its quotes. -/
theorem not_outside_literal (hbody : '\'' ∉ body) (rest : List Char) {i : ℕ}
    (hi : i < body.length + 2) :
    ¬Outside (front ++ '\'' :: (body ++ '\'' :: rest)) (front.length + i) := by
  rintro (⟨hquote, heven⟩ | ⟨hodd, p, hp, hlast⟩)
  · rw [List.getElem?_append_right (Nat.le_add_right _ _), Nat.add_sub_cancel_left] at hquote
    rw [List.take_length_add_append, List.count_append] at heven
    cases i with
    | zero => exact hquote rfl
    | succ i =>
      -- inside of the literal one quote more is in front; behind it stands its second quote
      rcases Nat.lt_or_ge i body.length with hinside | hbehind
      · have hnone : (body.take i).count '\'' = 0 :=
          List.count_eq_zero.mpr fun hmem => hbody (List.mem_of_mem_take hmem)
        rw [List.take_succ_cons, List.take_append_of_le_length (Nat.le_of_lt hinside),
          List.count_cons_self, hnone, Nat.even_add] at heven
        exact absurd (heven.mp hfront) (by decide)
      · obtain rfl : i = body.length := by omega
        exact hquote (by simp)
  · -- a quote without partner can only stand behind the literal
    have hbehind : (front ++ '\'' :: (body ++ '\'' :: rest)).drop
        (front.length + (body.length + 2)) = rest := by
      rw [← List.drop_drop, List.drop_left]
      simp
    have hle := hlast.le_of_mem_drop (hbehind.symm ▸ mem_of_odd_count hfront hbody hodd)
    omega

/-- A quote that has no partner, and all that stands behind it. -/
theorem outside_unclosed (htail : '\'' ∉ tail) (i : ℕ) :
    Outside (front ++ '\'' :: tail) (front.length + i) := by
  refine .inr ⟨?_, front.length, Nat.le_add_right _ _, ?_, ?_⟩
  · simp [List.count_eq_zero.mpr htail, hfront]
  · simp
  · rwa [← List.drop_drop, List.drop_left, List.drop_one, List.tail_cons]

end

/-- The characters whose positions have a property, read behind `n` others. -/
def keptFrom (q : ℕ → Bool) (n : ℕ) (cs : List Char) : List Char :=
  ((cs.zipIdx n).filter fun p => q p.2).map Prod.fst

section

variable {q : ℕ → Bool} {n : ℕ} {cs : List Char}

theorem keptFrom_append (q : ℕ → Bool) (n : ℕ) (a b : List Char) :
    keptFrom q n (a ++ b) = keptFrom q n a ++ keptFrom q (n + a.length) b := by
  rw [keptFrom, List.zipIdx_append, List.filter_append, List.map_append]
  rfl

theorem keptFrom_of_forall (h : ∀ i < cs.length, q (n + i) = true) : keptFrom q n cs = cs := by
  have hall : (cs.zipIdx n).filter (fun p => q p.2) = cs.zipIdx n := by
    rw [List.filter_eq_self]
    rintro ⟨c, i⟩ hmem
    obtain ⟨hn, hi, -⟩ := List.mem_zipIdx hmem
    obtain ⟨k, rfl⟩ := Nat.le.dest hn
    exact h k (by omega)
  rw [keptFrom, hall, List.zipIdx_map_fst]

theorem keptFrom_of_forall_not (h : ∀ i < cs.length, q (n + i) = false) : keptFrom q n cs = [] := by
  have hnone : (cs.zipIdx n).filter (fun p => q p.2) = [] := by
    rw [List.filter_eq_nil_iff]
    rintro ⟨c, i⟩ hmem
    obtain ⟨hn, hi, -⟩ := List.mem_zipIdx hmem
    obtain ⟨k, rfl⟩ := Nat.le.dest hn
    exact Bool.eq_false_iff.mp (h k (by omega))
  rw [keptFrom, hnone, List.map_nil]

end

section

variable {front plain body tail : List Char} (hfront : Even (front.count '\''))

include hfront

theorem even_count_append (hplain : '\'' ∉ plain) : Even ((front ++ plain).count '\'') := by
  rwa [List.count_append, List.count_eq_zero.mpr hplain, Nat.add_zero]

/-- Reading goes on behind characters that are no quotes. -/
theorem keptFrom_plain_append (hplain : '\'' ∉ plain) (rest : List Char) :
    keptFrom (fun i => Outside (front ++ (plain ++ rest)) i) front.length (plain ++ rest) =
      plain ++ keptFrom (fun i => Outside (front ++ plain ++ rest) i)
        (front ++ plain).length rest := by
  rw [keptFrom_append,
    keptFrom_of_forall fun i hi => decide_eq_true (outside_plain hfront hplain rest hi),
    List.append_assoc, List.length_append]

theorem keptFrom_unclosed (htail : '\'' ∉ tail) :
    keptFrom (fun i => Outside (front ++ '\'' :: tail) i) front.length ('\'' :: tail) =
      '\'' :: tail :=
  keptFrom_of_forall fun i _ => decide_eq_true (outside_unclosed hfront htail i)

/-- Reading goes on behind a closed literal. -/
theorem keptFrom_literal_append (hbody : '\'' ∉ body) (rest : List Char) :
    keptFrom (fun i => Outside (front ++ '\'' :: (body ++ '\'' :: rest)) i) front.length
        ('\'' :: (body ++ '\'' :: rest)) =
      keptFrom (fun i => Outside (front ++ '\'' :: (body ++ ['\'']) ++ rest) i)
        (front ++ '\'' :: (body ++ ['\''])).length rest := by
  -- the literal with both of its quotes is put to the text in front
  have hliteral : '\'' :: (body ++ '\'' :: rest) = '\'' :: (body ++ ['\'']) ++ rest := by simp
  have hdropped : keptFrom (fun i => Outside (front ++ '\'' :: (body ++ '\'' :: rest)) i)
      front.length ('\'' :: (body ++ ['\''])) = [] := by
    have hlength : ('\'' :: (body ++ ['\''])).length = body.length + 2 := by simp
    exact keptFrom_of_forall_not fun i hi =>
      decide_eq_false (not_outside_literal hfront hbody rest (hlength ▸ hi))
  rw [hliteral] at hdropped ⊢
  rw [keptFrom_append, hdropped, List.nil_append, List.append_assoc, List.length_append]

/-- **Stripping keeps what stands outside**, also behind text in which every literal is closed. -/
theorem keptFrom_outside (cs : List Char) :
    keptFrom (fun i => Outside (front ++ cs) i) front.length cs = stripLiterals cs := by
  -- the text in front grows by one closed literal at a time, and so stays even
  induction cs using quotedInduction generalizing front with
  | plain text h =>
    have hkept := keptFrom_plain_append hfront h []
    rw [List.append_nil] at hkept
    rw [hkept, stripLiterals_of_not_mem h]
    exact List.append_nil text
  | unclosed plain tail hplain htail =>
    rw [keptFrom_plain_append hfront hplain,
      keptFrom_unclosed (even_count_append hfront hplain) htail,
      stripLiterals_append_of_not_mem hplain, stripLiterals_unclosed htail]
  | literal plain body rest hplain hbody ih =>
    have hjoined := even_count_append hfront hplain
    have hclosed : Even ((front ++ plain ++ '\'' :: (body ++ ['\''])).count '\'') := by
      rw [List.count_append, Nat.even_add]
      refine iff_of_true hjoined ?_
      simp [List.count_eq_zero.mpr hbody]
    rw [keptFrom_plain_append hfront hplain, keptFrom_literal_append hjoined hbody, ih hclosed,
      stripLiterals_append_of_not_mem hplain, stripLiterals_literal hbody]

end

/-- **What is left of a text** are the characters outside of literals, in their order. -/
theorem stripLiterals_eq_outside (cs : List Char) :
    stripLiterals cs = (cs.zipIdx.filter fun p => Outside cs p.2).map Prod.fst := by
  have hnone : Even (([] : List Char).count '\'') := by simp
  exact (keptFrom_outside hnone cs).symm

end Chars

/-! ### Texts, and what is counted in them -/

/-- How often the character stands outside of closed literals. -/
def occurrencesOutside (c : Char) (text : String) : ℕ :=
  text.toList.zipIdx.countP fun p => p.1 == c && decide (Chars.Outside text.toList p.2)

theorem occurrences_stripLiterals (c : Char) (text : String) :
    occurrences c (stripLiterals text) = occurrencesOutside c text := by
  rw [occurrences, stripLiterals, String.toList_ofList, Chars.stripLiterals_eq_outside,
    List.count_eq_countP, List.countP_map, List.countP_filter]
  rfl

theorem stripLiterals_append {a : String} (h : Even (occurrences '\'' a)) (b : String) :
    stripLiterals (a ++ b) = stripLiterals a ++ stripLiterals b := by
  rw [stripLiterals, String.toList_append, Chars.stripLiterals_append h, String.ofList_append]
  rfl

/-- A closed literal might as well not be there. -/
theorem stripLiterals_without_literal {front literal : String}
    (hfront : Even (occurrences '\'' front)) (hliteral : occurrences '\'' literal = 0)
    (back : String) :
    stripLiterals (front ++ "'" ++ literal ++ "'" ++ back) = stripLiterals (front ++ back) := by
  have hbody : '\'' ∉ literal.toList := List.count_eq_zero.mp hliteral
  have hquoted : (front ++ "'" ++ literal ++ "'" ++ back).toList =
      front.toList ++ '\'' :: (literal.toList ++ '\'' :: back.toList) := by simp
  rw [stripLiterals, hquoted, Chars.stripLiterals_append hfront, Chars.stripLiterals_literal hbody,
    stripLiterals, String.toList_append, Chars.stripLiterals_append hfront]

theorem parenthesesIssue?_eq_none_iff (group : StatementGroup) :
    parenthesesIssue? group = none ↔
      occurrencesOutside '(' group.text = occurrencesOutside ')' group.text := by
  rw [← occurrences_stripLiterals, ← occurrences_stripLiterals]
  by_cases hbalanced : occurrences '(' (stripLiterals group.text) =
    occurrences ')' (stripLiterals group.text) <;>
    simp [parenthesesIssue?, hbalanced]

theorem parenthesesIssue?_congr {text other : String} (h : stripLiterals text = stripLiterals other)
    (head : Line) :
    parenthesesIssue? ⟨head, text⟩ = parenthesesIssue? ⟨head, other⟩ := by
  unfold parenthesesIssue?
  rw [h]

/-- **Stripping keeps what stands outside of closed literals**, in its order.  One quote is left of
an odd number of them and none of an even number, and stripping again changes nothing.  Semicolons
and parentheses are counted where they stand outside.  Text in which every literal is closed is
stripped on its own, and a closed literal behind it takes no part in these counts, nor in the
finding that shows them. -/
theorem stripLiterals_keeps_outside :
    (∀ text : String,
      stripLiterals text =
          String.ofList
            ((text.toList.zipIdx.filter fun p => Chars.Outside text.toList p.2).map Prod.fst) ∧
        occurrences '\'' (stripLiterals text) = occurrences '\'' text % 2 ∧
        stripLiterals (stripLiterals text) = stripLiterals text ∧
        semicolons text = occurrencesOutside ';' text ∧
        ∀ head : Line, parenthesesIssue? ⟨head, text⟩ = none ↔
          occurrencesOutside '(' text = occurrencesOutside ')' text) ∧
      ∀ front : String, Even (occurrences '\'' front) →
        (∀ back : String, stripLiterals (front ++ back) =
          stripLiterals front ++ stripLiterals back) ∧
        ∀ literal back : String, occurrences '\'' literal = 0 →
          semicolons (front ++ "'" ++ literal ++ "'" ++ back) = semicolons (front ++ back) ∧
            ∀ head : Line, parenthesesIssue? ⟨head, front ++ "'" ++ literal ++ "'" ++ back⟩ =
              parenthesesIssue? ⟨head, front ++ back⟩ := by
  refine ⟨fun text => ⟨?_, ?_, ?_, ?_, ?_⟩, fun front hfront => ⟨stripLiterals_append hfront, ?_⟩⟩
  · rw [stripLiterals, Chars.stripLiterals_eq_outside]
  · rw [occurrences, stripLiterals, String.toList_ofList, Chars.count_quote_stripLiterals,
      occurrences]
  · rw [stripLiterals, stripLiterals, String.toList_ofList, Chars.stripLiterals_stripLiterals]
  · exact occurrences_stripLiterals ';' text
  · exact fun head => parenthesesIssue?_eq_none_iff ⟨head, text⟩
  · intro literal back hliteral
    have hsame := stripLiterals_without_literal hfront hliteral back
    exact ⟨congrArg (occurrences ';') hsame, parenthesesIssue?_congr hsame⟩

end RpgLint
