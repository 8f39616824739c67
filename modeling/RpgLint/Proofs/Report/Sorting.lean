import RpgLint.Report.Check

/-!
# Sorting findings

Findings are sorted by a total preorder, and findings that agree in line and severity keep their
order.  So a list of findings that is contained in a longer one, in the same relative order, is
still contained in it after both have been sorted.

## Main results

* `List.Sublist.mergeSort`, `List.filter_mergeSort` — a stable sort keeps sublists, and goes with
  filters.
* `sortIssues_sublist`, `filter_sortIssues` — sorting findings does.
-/

universe u

namespace List

/-- **A stable sort keeps sublists.**  A new head is put in front of the first element that it may
precede, so both sorted lists fall into the elements before that place and those from it on. -/
theorem Sublist.mergeSort {α : Type u} {le : α → α → Bool}
    (trans : ∀ a b c, le a b → le b c → le a c) (total : ∀ a b, le a b || le b a) {xs ys : List α}
    (h : xs <+ ys) : xs.mergeSort le <+ ys.mergeSort le := by
  induction h with
  | slnil => exact Sublist.refl _
  | @cons xs ys a _ ih =>
    -- the head is in the longer list only, and goes somewhere in it
    obtain ⟨l₁, l₂, hcons, hys, -⟩ := mergeSort_cons trans total a ys
    rw [hcons]
    rw [hys] at ih
    exact ih.trans ((sublist_cons_self a l₂).append_left l₁)
  | @cons_cons xs ys a _ ih =>
    obtain ⟨s₁, s₂, hxcons, hxs, hs₁⟩ := mergeSort_cons trans total a xs
    obtain ⟨l₁, l₂, hycons, hys, hl₁⟩ := mergeSort_cons trans total a ys
    -- what stands behind the new head may follow it
    have hs₂ : ∀ b ∈ s₂, le a b := by
      have hsorted := pairwise_mergeSort trans total (a :: xs)
      rw [hxcons] at hsorted
      exact (pairwise_cons.mp (pairwise_append.mp hsorted).2.1).1
    have hl₂ : ∀ b ∈ l₂, le a b := by
      have hsorted := pairwise_mergeSort trans total (a :: ys)
      rw [hycons] at hsorted
      exact (pairwise_cons.mp (pairwise_append.mp hsorted).2.1).1
    rw [hxs, hys] at ih
    rw [hxcons, hycons]
    refine Sublist.append ?_ (Sublist.cons_cons a ?_)
    · -- the elements before the new head are those that it may not precede
      have h₁ := ih.filter fun b => !le a b
      rwa [filter_append, filter_append, filter_eq_self.mpr hs₁, filter_eq_self.mpr hl₁,
        filter_eq_nil_iff.mpr (by simpa using hs₂), filter_eq_nil_iff.mpr (by simpa using hl₂),
        append_nil, append_nil] at h₁
    · have h₂ := ih.filter fun b => le a b
      rwa [filter_append, filter_append, filter_eq_self.mpr hs₂, filter_eq_self.mpr hl₂,
        filter_eq_nil_iff.mpr (by simpa using hs₁), filter_eq_nil_iff.mpr (by simpa using hl₁),
        nil_append, nil_append] at h₂

/-- A stable sort may come after a filter as well as before it. -/
theorem filter_mergeSort {α : Type u} {le : α → α → Bool}
    (trans : ∀ a b c, le a b → le b c → le a c) (total : ∀ a b, le a b || le b a) (p : α → Bool)
    (xs : List α) : (xs.mergeSort le).filter p = (xs.filter p).mergeSort le := by
  -- sorting keeps the picked elements in the sorted list, all of which are picked
  have hsub : (xs.filter p).mergeSort le <+ (xs.mergeSort le).filter p := by
    have hall : ∀ a ∈ (xs.filter p).mergeSort le, p a := by
      intro a ha
      exact (mem_filter.mp ((mergeSort_perm _ le).mem_iff.mp ha)).2
    rw [← filter_eq_self.mpr hall]
    exact (filter_sublist.mergeSort trans total).filter p
  -- both lists have as many elements
  refine (hsub.eq_of_length ?_).symm
  rw [(mergeSort_perm _ le).length_eq, ((mergeSort_perm xs le).filter p).length_eq]

end List

namespace RpgLint

namespace Issue

/-- The order of findings, as a lexicographic one on numbers. -/
theorem notAfter_iff (a b : Issue) :
    a.notAfter b ↔ a.line < b.line ∨ a.line = b.line ∧ a.severity.rank ≤ b.severity.rank := by
  simp [notAfter]

theorem notAfter_trans (a b c : Issue) (hab : a.notAfter b) (hbc : b.notAfter c) :
    a.notAfter c := by
  rw [notAfter_iff] at *
  omega

theorem notAfter_total (a b : Issue) : a.notAfter b || b.notAfter a := by
  rw [Bool.or_eq_true, notAfter_iff, notAfter_iff]
  omega

end Issue

/-- Sorted findings stay contained in the sorted list of more findings. -/
theorem sortIssues_sublist {few many : List Issue} (h : few.Sublist many) :
    (sortIssues few).Sublist (sortIssues many) :=
  h.mergeSort Issue.notAfter_trans Issue.notAfter_total

/-- Findings may be picked before they are sorted as well as after. -/
theorem filter_sortIssues (p : Issue → Bool) (issues : List Issue) :
    (sortIssues issues).filter p = sortIssues (issues.filter p) :=
  List.filter_mergeSort Issue.notAfter_trans Issue.notAfter_total p issues

end RpgLint
