import Mathlib.Algebra.BigOperators.Group.List.Basic
import Mathlib.Algebra.GroupWithZero.Nat
import RpgLint.Line.Statistics
import RpgLint.Proofs.Line.Classification

/-!
# Counts of lines

A source has comments, blank lines and code, and no line of it is two of these: the asterisk of a
comment is not a blank.  So the counts of a source add up, and taking two sources together adds
their counts.  Only the texts of the lines are counted, so that the counts of a project are told by
the texts of all its lines, wherever they stand.

## Main definitions

* `Line.Separate` — the lines that are not both a comment and blank.
* `LineStatistics.ofTexts` — the counts of lines by their texts.
* `LineStatistics.ofText` — what a line adds to each count, read off the columns of its text.
* `ProjectStatistics.ofSources`, `sourceLines` — the counts of named sources, and the texts of their
  lines.

## Main results

* `SpecCounts.sum_of` — every line is of exactly one kind.
* `LineStatistics.of_append` — the counts of lines behind other lines.
* `LineStatistics.of_classify_eq_sum` — the counts of a source are what its lines add.
* `ProjectStatistics.total_ofSources` — the counts of a project are those of all its lines.
* `statistics_partition_and_merge` — the laws of counting.
-/

namespace RpgLint

/-- Every line is of exactly one kind. -/
theorem SpecCounts.sum_of (lines : List Line) :
    (SpecType.all.map (SpecCounts.of lines)).sum = lines.length := by
  induction lines with
  | nil => rfl
  | cons line lines ih =>
    -- the first line counts once, under its own kind
    have hone : (SpecType.all.map fun spec => if line.spec == spec then 1 else 0).sum = 1 := by
      cases line.spec <;> rfl
    have hcount : SpecCounts.of (line :: lines) =
        fun spec => SpecCounts.of lines spec + if line.spec == spec then 1 else 0 :=
      funext fun spec => List.countP_cons
    rw [hcount, List.sum_map_add, ih, hone, List.length_cons]

/-! ### Comments and blank lines -/

/-- The line is not both a comment and blank. -/
def Line.Separate (line : Line) : Prop := line.isComment = true → line.isBlank = false

/-- The asterisk of a comment is not a blank. -/
theorem Line.separate_classify (number : Nat) (raw : String) :
    (Line.classify number raw).Separate := by
  intro hcomment
  rw [Line.isComment_classify, beq_iff_eq] at hcomment
  rw [Line.isBlank, Line.trimmed, Line.raw_classify]
  exact trim_ne_empty hcomment (by decide)

namespace LineStatistics

variable {lines front back : List Line}

/-- Comments and blank lines are different lines. -/
theorem comments_add_empty_le (h : ∀ line ∈ lines, line.Separate) :
    (of lines).comments + (of lines).empty ≤ (of lines).total := by
  -- no comment is among the blank lines
  have hcomments : lines.countP Line.isComment ≤ lines.countP fun line : Line => ¬line.isBlank := by
    refine List.countP_mono_left fun line hline hcomment => ?_
    rw [h line hline hcomment]
    rfl
  have hlength : lines.length = lines.countP Line.isBlank + lines.countP fun line : Line =>
      ¬line.isBlank :=
    List.length_eq_countP_add_countP Line.isBlank
  have htotal : (of lines).total = lines.length := rfl
  have hempty : (of lines).empty = lines.countP Line.isBlank := rfl
  have hcount : (of lines).comments = lines.countP Line.isComment := rfl
  omega

/-- What is neither a comment nor blank is code. -/
theorem code_add_comments_add_empty (h : ∀ line ∈ lines, line.Separate) :
    (of lines).code + (of lines).comments + (of lines).empty = (of lines).total := by
  have hle := comments_add_empty_le h
  have hcode : (of lines).code = (of lines).total - (of lines).comments - (of lines).empty := rfl
  omega

/-- **The counts of lines behind other lines are added.**  The lines of code are what is left of all
lines, so that they add up only where no line is taken away twice. -/
theorem of_append (hfront : ∀ line ∈ front, line.Separate) (hback : ∀ line ∈ back, line.Separate) :
    of (front ++ back) = (of front).add (of back) := by
  have htotal : (of (front ++ back)).total = (of front).total + (of back).total :=
    List.length_append
  have hcomments : (of (front ++ back)).comments = (of front).comments + (of back).comments :=
    List.countP_append
  have hempty : (of (front ++ back)).empty = (of front).empty + (of back).empty :=
    List.countP_append
  ext1
  · exact htotal
  · exact hcomments
  · -- code is what is left, so it adds up because everything else does
    have hboth : ∀ line ∈ front ++ back, line.Separate := List.forall_mem_append.mpr ⟨hfront, hback⟩
    have hsum := code_add_comments_add_empty hboth
    have hsumFront := code_add_comments_add_empty hfront
    have hsumBack := code_add_comments_add_empty hback
    show (of (front ++ back)).code = (of front).code + (of back).code
    omega
  · exact List.countP_append
  · exact hempty
  · exact funext fun spec => List.countP_append

/-- The order of the lines does not matter. -/
theorem of_perm (h : front.Perm back) : of front = of back := by
  have hspecs : SpecCounts.of front = SpecCounts.of back := funext fun spec => h.countP_eq _
  simp only [of, hspecs, h.length_eq, h.countP_eq]

/-- The numbers of the lines are not counted. -/
theorem of_renumbered (lines : List Line) (number : Nat) :
    of (lines.map fun line => { line with number := number }) = of lines := by
  unfold of SpecCounts.of
  simp only [List.length_map, List.countP_map]
  rfl

/-! ### Counting by texts -/

/-- The counts of lines with the given texts. -/
def ofTexts (texts : List String) : LineStatistics := of (texts.map (Line.classify 1))

theorem of_classify (source : String) :
    of (classify source) = ofTexts ((classify source).map Line.raw) := by
  -- all lines get the number one, as in `ofTexts`
  rw [ofTexts, List.map_map, ← of_renumbered (classify source) 1]
  refine congrArg of (List.map_congr_left fun line hline => ?_)
  obtain ⟨number, raw, rfl⟩ := exists_classify_of_mem hline
  simp only [Function.comp_apply, Line.classify]

theorem ofTexts_append (texts others : List String) :
    ofTexts (texts ++ others) = (ofTexts texts).add (ofTexts others) := by
  have hseparate : ∀ texts : List String, ∀ line ∈ texts.map (Line.classify 1),
      line.Separate := fun texts =>
    List.forall_mem_map.mpr fun raw _ => Line.separate_classify 1 raw
  rw [ofTexts, List.map_append]
  exact of_append (hseparate texts) (hseparate others)

theorem ofTexts_perm {texts others : List String} (h : texts.Perm others) :
    ofTexts texts = ofTexts others :=
  of_perm (h.map _)

/-- Texts that are counted group by group are counted at once. -/
theorem foldl_add_ofTexts (groups : List (List String)) (seen : List String) :
    (groups.map ofTexts).foldl add (ofTexts seen) = ofTexts (seen ++ groups.flatten) := by
  induction groups generalizing seen with
  | nil => rw [List.flatten_nil, List.append_nil, List.map_nil, List.foldl_nil]
  | cons texts groups ih =>
    rw [List.map_cons, List.foldl_cons, ← ofTexts_append, ih, List.flatten_cons, List.append_assoc]

/-- What a line adds to each count: an asterisk in column 7 makes it a comment, blanks alone make it
empty, and otherwise it is code; its kind and how it continues an earlier line are read off as
well. -/
def ofText (raw : String) : LineStatistics :=
  let commented := charAt? raw 6 == some '*'
  let blank := isBlankText raw
  { total := 1
    comments := commented.toNat
    code := (!commented && !blank).toNat
    continuations := (detectContinuation? (detectSpec raw) raw).isSome.toNat
    empty := blank.toNat
    specs := fun spec => (detectSpec raw == spec).toNat }

theorem ofTexts_singleton (raw : String) : ofTexts [raw] = ofText raw := by
  have hone : ∀ p : Line → Bool,
      [Line.classify 1 raw].countP p = (p (Line.classify 1 raw)).toNat := fun p => by
    rw [List.countP_singleton]
    cases p (Line.classify 1 raw) <;> rfl
  have hblank : (Line.classify 1 raw).isBlank = isBlankText raw := isEmpty_trim raw
  have hspecs : SpecCounts.of [Line.classify 1 raw] = fun spec => (detectSpec raw == spec).toNat :=
    funext fun spec => (hone _).trans (by rw [Line.spec_classify])
  have hseparate := Line.separate_classify 1 raw
  rw [Line.Separate, hblank, Line.isComment_classify] at hseparate
  -- code is what is left of the one line, which is not taken away twice
  have hcode : 1 - (charAt? raw 6 == some '*').toNat - (isBlankText raw).toNat =
      (!(charAt? raw 6 == some '*') && !isBlankText raw).toNat := by
    cases hcommented : charAt? raw 6 == some '*' with
    | true =>
      rw [hseparate hcommented]
      rfl
    | false => cases isBlankText raw <;> rfl
  simp only [ofTexts, ofText, of, List.map_cons, List.map_nil, hone, hblank, hspecs, hcode,
    List.length_singleton, Line.isComment_classify, Line.isContinuation,
    Line.continuation_classify]

/-- **The counts of a source are what its lines add.** -/
theorem of_classify_eq_sum (source : String) :
    of (classify source) = sum ((classify source).map fun line => ofText line.raw) := by
  have hgroups := foldl_add_ofTexts (((classify source).map Line.raw).map fun raw => [raw]) []
  have hflatten : (((classify source).map Line.raw).map fun raw => [raw]).flatten =
      (classify source).map Line.raw := by rw [← List.flatMap_def, List.flatMap_singleton']
  have hadded : (((classify source).map Line.raw).map fun raw => [raw]).map ofTexts =
      (classify source).map fun line => ofText line.raw := by
    simp only [List.map_map, Function.comp_def, ofTexts_singleton]
  rw [hflatten, List.nil_append, hadded] at hgroups
  rw [of_classify, ← hgroups]
  rfl

/-- A comment, a definition, the line that continues it, and an empty line. -/
example : LineStatistics.of (classify "     D* note\n     Dx\n     D                 S\n") =
    { total := 4, comments := 1, code := 2, continuations := 1, empty := 1,
      specs :=
        fun spec => if spec = .definition then 3 else if spec = .unknown then 1 else 0 } := by
  ext1
  case specs => exact funext fun spec => by cases spec <;> rfl
  all_goals rfl

end LineStatistics

/-! ### The counts of a project -/

/-- The counts of named sources. -/
def ProjectStatistics.ofSources (sources : List (String × String)) : ProjectStatistics :=
  ⟨sources.map fun source => { path := source.1, counts := .of (classify source.2) }⟩

/-- The texts of the lines of all sources. -/
def sourceLines (sources : List (String × String)) : List String :=
  sources.flatMap fun source => (classify source.2).map Line.raw

/-- **The counts of a project are those of all its lines.** -/
theorem ProjectStatistics.total_ofSources (sources : List (String × String)) :
    (ofSources sources).total = LineStatistics.ofTexts (sourceLines sources) := by
  have hcounts : (ofSources sources).files.map (·.counts) =
      (sources.map fun source => (classify source.2).map Line.raw).map LineStatistics.ofTexts := by
    rw [ofSources, List.map_map, List.map_map]
    exact List.map_congr_left fun source _ => LineStatistics.of_classify source.2
  rw [total, LineStatistics.sum, hcounts]
  exact LineStatistics.foldl_add_ofTexts _ []

/-- **Counting lines.**  Comments and blank lines are different lines, and what is left of the lines
is code; the ten kinds add up to all lines, of which there is one more than there are line feeds.
The counts of two sources, one behind the other, are the counts of both added up; and projects whose
files hold the same lines, however these are distributed over the files and in whatever order, have
the same counts. -/
theorem statistics_partition_and_merge (source : String) :
    let counts : LineStatistics := .of (classify source)
    counts.comments + counts.empty ≤ counts.total ∧
      counts.code + counts.comments + counts.empty = counts.total ∧
      (SpecType.all.map counts.specs).sum = counts.total ∧
      counts.total = source.toList.count '\n' + 1 ∧
      (∀ front back : String, LineStatistics.of (classify (front ++ "\n" ++ back)) =
        (LineStatistics.of (classify front)).add (LineStatistics.of (classify back))) ∧
      ∀ sources others : List (String × String), (sourceLines sources).Perm (sourceLines others) →
        (ProjectStatistics.ofSources sources).total =
          (ProjectStatistics.ofSources others).total := by
  intro counts
  have hseparate : ∀ line ∈ classify source, line.Separate := by
    intro line hline
    obtain ⟨number, raw, rfl⟩ := exists_classify_of_mem hline
    exact Line.separate_classify number raw
  refine ⟨LineStatistics.comments_add_empty_le hseparate,
    LineStatistics.code_add_comments_add_empty hseparate,
    SpecCounts.sum_of (classify source), length_classify source, ?_, ?_⟩
  · -- the lines of the second source have other numbers, which are not counted
    intro front back
    have hshift : (Line.raw ∘ Line.shift (classify front).length) = Line.raw := rfl
    rw [LineStatistics.of_classify, classify_append, List.map_append, List.map_map, hshift,
      LineStatistics.ofTexts_append, ← LineStatistics.of_classify, ← LineStatistics.of_classify]
  · intro sources others hlines
    rw [ProjectStatistics.total_ofSources, ProjectStatistics.total_ofSources]
    exact LineStatistics.ofTexts_perm hlines

/-- The same three lines in two files and in one. -/
example : (sourceLines [("a", "     D* note\n"), ("b", "     Dx")]).Perm
    (sourceLines [("c", "     Dx\n\n     D* note")]) := by decide

end RpgLint
