import RpgLint.Line.Directive
import RpgLint.Proofs.Text.Trimming

/-!
# The first columns of a line

A field is read in its own columns, without the blanks around its text, so that lines which agree in
their first columns read the same in every field that ends there, however they go on.

## Main definitions

* `AgreeBefore` — lines with the same first columns.

## Main results

* `Span.extract?_of_drop_eq` — a field further to the right.
* `AgreeBefore.charAt?_eq`, `AgreeBefore.extract?_eq` and the others — what is read of these
  columns.
* `AgreeBefore.detectContinuation?_eq` — how such lines continue an earlier one.
-/

namespace RpgLint

/-! ### The text of a field -/

namespace Span

variable {span : Span} {raw : String}

/-- A field with some text in it. -/
theorem extract?_of_trim {cs : List Char} (h : Chars.trim (span.text raw).toList = cs)
    (hne : cs ≠ []) :
    span.extract? raw = some (String.ofList cs) := by
  have hsome : (String.ofList cs).isEmpty = false := by
    rw [Bool.eq_false_iff, ne_eq, String.isEmpty_iff, ← String.toList_eq_nil_iff,
      String.toList_ofList]
    exact hne
  rw [extract?, trim, h]
  exact if_neg (Bool.eq_false_iff.mp hsome)

theorem trim_text_of_extract? {value : String} (h : span.extract? raw = some value) :
    Chars.trim (span.text raw).toList = value.toList := by
  unfold extract? at h
  dsimp only at h
  split at h
  · cases h
  · rw [← Option.some.inj h, trim, String.toList_ofList]

/-- Nothing is read of a blank field, and of no other one. -/
theorem extract?_eq_none_iff : span.extract? raw = none ↔ span.isBlank raw = true := by
  rw [extract?, isEmpty_trim, isBlank]
  cases isBlankText (span.text raw) <;> simp

/-- A blank field. -/
theorem extract?_of_isBlank (h : span.isBlank raw = true) : span.extract? raw = none :=
  extract?_eq_none_iff.mpr h

/-- A field reads the same in a line that has the columns from it on, further to the right. -/
theorem extract?_of_drop_eq {n k : Nat} {other : String}
    (h : other.toList.drop (n + k) = raw.toList.drop n) (hspan : n ≤ span.start) :
    extract? ⟨span.start + k, span.stop + k⟩ other = span.extract? raw := by
  obtain ⟨i, hi⟩ := Nat.exists_eq_add_of_le hspan
  -- both fields begin equally far behind the place from which the lines are the same
  have hdrop : other.toList.drop (span.start + k) = raw.toList.drop span.start := by
    rw [hi, Nat.add_right_comm, ← List.drop_drop, h, List.drop_drop]
  have htext : text ⟨span.start + k, span.stop + k⟩ other = span.text raw := by
    rw [text, slice, text, slice, List.drop_take, List.drop_take, hdrop, Nat.add_sub_add_right]
  rw [extract?, htext, extract?]

end Span

/-! ### Lines that agree -/

/-- The lines agree in their first `n` columns: the same characters, or the same end. -/
def AgreeBefore (n : Nat) (raw other : String) : Prop := raw.toList.take n = other.toList.take n

namespace AgreeBefore

variable {m n : Nat} {raw other : String}

theorem symm (h : AgreeBefore n raw other) : AgreeBefore n other raw := Eq.symm h

theorem mono (h : AgreeBefore n raw other) (hm : m ≤ n) : AgreeBefore m raw other := by
  have htake := congrArg (List.take m) h
  rwa [List.take_take, List.take_take, Nat.min_eq_left hm] at htake

section

variable (h : AgreeBefore n raw other)

include h

theorem charAt?_eq {i : Nat} (hi : i < n) : charAt? raw i = charAt? other i := by
  rw [charAt?, charAt?, ← List.getElem?_take_of_lt hi, h, List.getElem?_take_of_lt hi]

theorem slice_eq {stop : Nat} (hstop : stop ≤ n) (start : Nat) :
    slice raw start stop = slice other start stop := by
  rw [slice, slice, h.mono hstop]

/-- As far as the lines agree, they reach the same columns. -/
theorem le_charLength_iff (hm : m ≤ n) : m ≤ charLength raw ↔ m ≤ charLength other := by
  have hlength := congrArg List.length (h.mono hm)
  rw [List.length_take, List.length_take] at hlength
  unfold charLength
  omega

section

variable {span : Span} (hspan : span.stop ≤ n)

include hspan

theorem text_eq : span.text raw = span.text other := h.slice_eq hspan _

theorem extract?_eq : span.extract? raw = span.extract? other := by
  rw [Span.extract?, h.text_eq hspan, Span.extract?]

theorem isBlank_eq : span.isBlank raw = span.isBlank other := by
  rw [Span.isBlank, h.text_eq hspan, Span.isBlank]

theorem fits_eq : span.fits raw = span.fits other :=
  decide_eq_decide.mpr (h.le_charLength_iff hspan)

end

theorem codeArea_eq (hn : 80 ≤ n) : codeArea raw = codeArea other := by
  rw [codeArea, h.slice_eq hn, codeArea]

/-- How a line continues an earlier one is told by column 7 and the key field of its type. -/
theorem detectContinuation?_eq {spec : SpecType} (hn : 6 < n)
    (hkey : ∀ key ∈ spec.keyField?, key.stop ≤ n) :
    detectContinuation? spec raw = detectContinuation? spec other := by
  unfold detectContinuation?
  rw [h.charAt?_eq hn]
  -- a type without a key field is continued by a marker alone
  cases hspec : spec.keyField? with
  | none => rfl
  | some key =>
    dsimp only
    rw [h.fits_eq (hkey key hspec), h.isBlank_eq (hkey key hspec)]

end

end AgreeBefore

end RpgLint
