import RpgLint.Proofs.Line.CodeColumns

/-!
# The lines of a source

Classification cuts a source at its line feeds and drops the carriage returns at the end of each
line, and nothing else is lost: the lines joined again are the source without those carriage
returns.  Each line is classified on its own, so that joined lines are classified alike, and lines
put behind others only get other numbers.

## Main definitions

* `Chars.withoutReturns` — a text without the carriage returns that end its lines.
* `sourceText` — lines joined to a source.
* `Line.shift` — a line so many lines further down.
* `OneLine` — a text of one line.

## Main results

* `Chars.split_eq_splitOn` — cutting at a separator, as the library of lists has it.
* `Chars.intercalate_lineChars` — what the lines keep of the text.
* `getElem?_of_mem_classify` — a line stands at its number.
* `classify_keeps_source` — the laws of classification.
-/

namespace RpgLint

namespace Chars

/-! ### Cutting at a separator -/

section

variable {separator c : Char} {cs piece : List Char} {rest : List (List Char)}

theorem split_cons_self (separator : Char) (cs : List Char) :
    split separator (separator :: cs) = [] :: split separator cs := if_pos rfl

/-- A character that is no separator goes to the first piece. -/
theorem split_cons_of_ne (hc : c ≠ separator) (h : split separator cs = piece :: rest) :
    split separator (c :: cs) = (c :: piece) :: rest := by
  rw [split, List.foldr_cons, ← split, if_neg hc, h]

/-- There is always a first piece. -/
theorem exists_split (separator : Char) (cs : List Char) :
    ∃ piece rest, split separator cs = piece :: rest := by
  induction cs with
  | nil => exact ⟨[], [], rfl⟩
  | cons c cs ih =>
    obtain ⟨piece, rest, hsplit⟩ := ih
    by_cases hc : c = separator
    · rw [hc]
      exact ⟨[], _, split_cons_self separator cs⟩
    · exact ⟨c :: piece, rest, split_cons_of_ne hc hsplit⟩

theorem split_eq_splitOn (separator : Char) (cs : List Char) :
    split separator cs = cs.splitOn separator := by
  induction cs with
  | nil => rfl
  | cons c cs ih =>
    rw [List.splitOn_cons_eq_if_modifyHead, ← ih]
    by_cases hc : c = separator
    · rw [hc, split_cons_self, if_pos (beq_self_eq_true separator)]
    · obtain ⟨piece, rest, hsplit⟩ := exists_split separator cs
      rw [split_cons_of_ne hc hsplit, hsplit, if_neg (by simpa using hc)]
      rfl

theorem length_split (separator : Char) (cs : List Char) :
    (split separator cs).length = cs.count separator + 1 := by
  induction cs with
  | nil => rfl
  | cons c cs ih =>
    by_cases hc : c = separator
    · rw [hc, split_cons_self, List.length_cons, ih, List.count_cons_self]
    · obtain ⟨piece, rest, hsplit⟩ := exists_split separator cs
      rw [hsplit, List.length_cons] at ih
      rw [split_cons_of_ne hc hsplit, List.length_cons, ih, List.count_cons_of_ne hc]

theorem not_mem_of_mem_split (h : piece ∈ split separator cs) : separator ∉ piece := by
  induction cs generalizing piece with
  | nil =>
    rw [List.mem_singleton.mp h]
    exact List.not_mem_nil
  | cons c cs ih =>
    by_cases hc : c = separator
    · rw [hc, split_cons_self] at h
      rcases List.mem_cons.mp h with rfl | hmem
      · exact List.not_mem_nil
      · exact ih hmem
    · obtain ⟨first, rest, hsplit⟩ := exists_split separator cs
      rw [hsplit] at ih
      rw [split_cons_of_ne hc hsplit] at h
      rcases List.mem_cons.mp h with rfl | hmem
      · rw [List.mem_cons, not_or]
        exact ⟨Ne.symm hc, ih List.mem_cons_self⟩
      · exact ih (List.mem_cons_of_mem _ hmem)

end

/-! ### Carriage returns at the end of a line -/

/-- A carriage return. -/
def isReturn (c : Char) : Bool := c == '\r'

/-- Nothing but carriage returns stands in front of the next line feed, or of the end of the
text. -/
def endsLine (cs : List Char) : Bool :=
  match cs.dropWhile isReturn with
  | [] => true
  | c :: _ => c == '\n'

/-- The text without the carriage returns of each run that stands right in front of a line feed or
at the end. -/
def withoutReturns : List Char → List Char
  | [] => []
  | c :: cs => if isReturn c && endsLine cs then withoutReturns cs else c :: withoutReturns cs

/-- A line feed with a carriage return in front of it, one inside of a line, and a run at the end of
the text. -/
example : withoutReturns "a\r\n\rb\n\r\r".toList = "a\n\rb\n".toList := by decide

/-- The texts of the lines. -/
def lineChars (cs : List Char) : List (List Char) := (split '\n' cs).map (dropEnd isReturn)

/-- Carriage returns end a line when the rest of the line is nothing else. -/
theorem endsLine_eq_all {cs piece : List Char} {rest : List (List Char)}
    (h : split '\n' cs = piece :: rest) :
    endsLine cs = piece.all isReturn := by
  induction cs generalizing piece rest with
  | nil =>
    obtain ⟨rfl, -⟩ := List.cons_eq_cons.mp h
    rfl
  | cons c cs ih =>
    by_cases hc : c = '\n'
    · -- the line ends here, and nothing is left of its piece
      rw [hc, split_cons_self] at h
      obtain ⟨rfl, -⟩ := List.cons_eq_cons.mp h
      rw [hc]
      rfl
    · -- the character is the first of its piece
      obtain ⟨first, others, hsplit⟩ := exists_split '\n' cs
      rw [split_cons_of_ne hc hsplit] at h
      obtain ⟨rfl, -⟩ := List.cons_eq_cons.mp h
      rw [List.all_cons, ← ih hsplit, endsLine, List.dropWhile_cons]
      cases hreturn : isReturn c with
      | true => rfl
      | false => exact beq_eq_false_iff_ne.mpr hc

/-- **The lines keep all of a text but the carriage returns at their ends.** -/
theorem intercalate_lineChars (cs : List Char) :
    ['\n'].intercalate (lineChars cs) = withoutReturns cs := by
  induction cs with
  | nil => rfl
  | cons c cs ih =>
    obtain ⟨piece, rest, hsplit⟩ := exists_split '\n' cs
    rw [lineChars, hsplit, List.map_cons] at ih
    rw [withoutReturns, endsLine_eq_all hsplit]
    by_cases hc : c = '\n'
    · -- a line feed separates an empty line from the others, and is put back there
      rw [hc, lineChars, split_cons_self, hsplit, List.map_cons, List.map_cons,
        List.intercalate_cons_cons, ih]
      rfl
    · rw [lineChars, split_cons_of_ne hc hsplit, List.map_cons, dropEnd_cons]
      -- the character is dropped when it is the last of a run that ends the line
      by_cases hends : isReturn c && piece.all isReturn
      · have hpiece : dropEnd isReturn piece = [] :=
          List.rdropWhile_eq_nil_iff.mpr (List.all_eq_true.mp (Bool.and_eq_true_iff.mp hends).2)
        rw [if_pos hends, if_pos hends, ← ih, hpiece]
      · rw [if_neg hends, if_neg hends, List.intercalate_cons_cons_left, ih]

theorem lineChars_ne_nil (cs : List Char) : lineChars cs ≠ [] := by
  obtain ⟨piece, rest, hsplit⟩ := exists_split '\n' cs
  rw [lineChars, hsplit, List.map_cons]
  exact List.cons_ne_nil _ _

/-- No line holds a line feed, or ends with a carriage return. -/
theorem of_mem_lineChars {cs line : List Char} (h : line ∈ lineChars cs) :
    '\n' ∉ line ∧ dropEnd isReturn line = line := by
  obtain ⟨piece, hpiece, rfl⟩ := List.mem_map.mp h
  refine ⟨fun hmem => ?_, List.rdropWhile_idempotent isReturn piece⟩
  exact not_mem_of_mem_split hpiece ((List.rdropWhile_prefix isReturn piece).subset hmem)

/-- Lines that are joined and cut again are the same lines. -/
theorem lineChars_intercalate {lines : List (List Char)}
    (h : ∀ line ∈ lines, '\n' ∉ line ∧ dropEnd isReturn line = line) (hne : lines ≠ []) :
    lineChars (['\n'].intercalate lines) = lines := by
  rw [lineChars, split_eq_splitOn,
    List.splitOn_intercalate '\n' (fun line hline => (h line hline).1) hne]
  exact (List.map_congr_left fun line hline => (h line hline).2).trans (List.map_id' _)

/-- No carriage return is dropped from a line that ends with another character. -/
theorem dropEnd_isReturn_eq_self_iff {cs : List Char} :
    dropEnd isReturn cs = cs ↔ cs.getLast? ≠ some '\r' := by
  refine List.rdropWhile_eq_self_iff.trans ⟨fun h hlast => ?_, fun h hne hreturn => ?_⟩
  · -- nothing but the last character is asked for
    have hne : cs ≠ [] := by
      rintro rfl
      cases hlast
    rw [List.getLast?_eq_some_getLast hne, Option.some.injEq] at hlast
    exact h hne (hlast ▸ rfl)
  · rw [List.getLast?_eq_some_getLast hne] at h
    exact h (congrArg some (beq_iff_eq.mp hreturn))

theorem lineChars_append (front back : List Char) :
    lineChars (front ++ '\n' :: back) = lineChars front ++ lineChars back := by
  rw [lineChars, split_eq_splitOn, List.splitOn_append_cons_self, List.map_append,
    ← split_eq_splitOn, ← split_eq_splitOn, ← lineChars, ← lineChars]

end Chars

/-! ### Classified lines -/

/-- Lines joined to a source. -/
def sourceText (lines : List Line) : String := "\n".intercalate (lines.map Line.raw)

/-- The line so many lines further down. -/
def Line.shift (offset : Nat) (line : Line) : Line := { line with number := line.number + offset }

/-- The lines of a source are classified one by one. -/
theorem classify_eq_mapIdx (source : String) :
    classify source =
      (Chars.lineChars source.toList).mapIdx fun i cs =>
        Line.classify (i + 1) (String.ofList cs) := by
  rw [Chars.lineChars, List.mapIdx_eq_zipIdx_map, List.zipIdx_map, List.map_map, classify,
    List.mapIdx_eq_zipIdx_map]
  rfl

theorem map_raw_classify (source : String) :
    (classify source).map Line.raw = (Chars.lineChars source.toList).map String.ofList := by
  refine List.ext_getElem? fun i => ?_
  rw [classify_eq_mapIdx, List.getElem?_map, List.getElem?_mapIdx, List.getElem?_map,
    Option.map_map]
  exact Option.map_congr fun cs _ => Line.raw_classify (i + 1) (String.ofList cs)

theorem toList_sourceText_classify (source : String) :
    (sourceText (classify source)).toList = ['\n'].intercalate (Chars.lineChars source.toList) := by
  rw [sourceText, map_raw_classify, String.toList_intercalate, List.map_map]
  congr 1
  exact (List.map_congr_left fun cs _ => String.toList_ofList).trans (List.map_id' _)

/-- Only its number tells a line where it stands. -/
theorem Line.classify_add (number offset : Nat) (raw : String) :
    Line.classify (number + offset) raw = (Line.classify number raw).shift offset := by
  simp only [Line.classify, Line.shift]

/-- The lines of a source are numbered from one. -/
theorem map_number_classify (source : String) :
    (classify source).map Line.number = List.range' 1 (classify source).length := by
  refine List.ext_getElem (by simp) fun i hi _ => ?_
  rw [List.length_map] at hi
  obtain ⟨raw, hat⟩ := exists_classify_of_getElem? (List.getElem?_eq_getElem hi)
  rw [List.getElem_map, hat, Line.number_classify, List.getElem_range', Nat.one_mul, Nat.add_comm]

/-- The lines of a source are numbered in increasing order. -/
theorem pairwise_number_classify (source : String) :
    ((classify source).map Line.number).Pairwise (· < ·) := by
  rw [map_number_classify]
  exact List.pairwise_lt_range'

theorem nodup_number_classify (source : String) : ((classify source).map Line.number).Nodup :=
  (pairwise_number_classify source).imp fun hlt => hlt.ne

theorem length_classify (source : String) :
    (classify source).length = source.toList.count '\n' + 1 := by
  rw [classify, List.length_mapIdx, Chars.length_split]

/-- A line stands at its number. -/
theorem getElem?_of_mem_classify {source : String} {line : Line} (h : line ∈ classify source) :
    1 ≤ line.number ∧ line.number ≤ (classify source).length ∧
      (classify source)[line.number - 1]? = some line := by
  obtain ⟨n, hn, hat⟩ := List.mem_iff_getElem.mp h
  obtain ⟨raw, hraw⟩ := exists_classify_of_getElem? (List.getElem?_eq_some_iff.mpr ⟨hn, hat⟩)
  have hnumber : line.number = n + 1 := by rw [hraw, Line.number_classify]
  rw [hnumber]
  exact ⟨Nat.le_add_left 1 n, hn, List.getElem?_eq_some_iff.mpr ⟨hn, hat⟩⟩

theorem eq_of_number_eq {source : String} {line other : Line} (hline : line ∈ classify source)
    (hother : other ∈ classify source) (h : line.number = other.number) : line = other := by
  have hat := (getElem?_of_mem_classify hline).2.2
  rw [h, (getElem?_of_mem_classify hother).2.2, Option.some.injEq] at hat
  exact hat.symm

theorem exists_first_classify (source : String) : ∃ first ∈ classify source, first.number = 1 := by
  have hlength : 0 < (classify source).length := length_classify source ▸ Nat.succ_pos _
  obtain ⟨raw, hraw⟩ := exists_classify_of_getElem? (List.getElem?_eq_getElem hlength)
  exact ⟨_, List.getElem_mem hlength, by rw [hraw, Line.number_classify]⟩

/-! ### Sources of one line -/

/-- The text is a single line, and does not end with a carriage return. -/
def OneLine (source : String) : Prop :=
  '\n' ∉ source.toList ∧ source.toList.getLast? ≠ some '\r'

instance (source : String) : Decidable (OneLine source) :=
  inferInstanceAs (Decidable ('\n' ∉ source.toList ∧ source.toList.getLast? ≠ some '\r'))

theorem OneLine.append {front back : String} (hfront : OneLine front) (hback : OneLine back) :
    OneLine (front ++ back) := by
  constructor
  · rw [String.toList_append, List.mem_append, not_or]
    exact ⟨hfront.1, hback.1⟩
  · -- the second part ends the text, unless it is empty
    rw [String.toList_append, List.getLast?_append]
    cases hlast : back.toList.getLast? with
    | none => exact hfront.2
    | some c =>
      rw [Option.some_or, ← hlast]
      exact hback.2

theorem oneLine_of_mem_classify {source : String} {line : Line} (h : line ∈ classify source) :
    OneLine line.raw := by
  have hraw : line.raw ∈ (Chars.lineChars source.toList).map String.ofList := by
    rw [← map_raw_classify]
    exact List.mem_map_of_mem h
  obtain ⟨cs, hcs, hline⟩ := List.mem_map.mp hraw
  obtain ⟨hfeed, hreturn⟩ := Chars.of_mem_lineChars hcs
  rw [← hline, OneLine, String.toList_ofList]
  exact ⟨hfeed, Chars.dropEnd_isReturn_eq_self_iff.mp hreturn⟩

theorem classify_of_oneLine {source : String} (h : OneLine source) :
    classify source = [Line.classify 1 source] := by
  have hlines : ∀ line ∈ [source.toList],
      '\n' ∉ line ∧ Chars.dropEnd Chars.isReturn line = line := by
    rw [List.forall_mem_singleton]
    exact ⟨h.1, Chars.dropEnd_isReturn_eq_self_iff.mpr h.2⟩
  have hcut := Chars.lineChars_intercalate hlines (List.cons_ne_nil _ _)
  rw [List.intercalate_singleton] at hcut
  rw [classify_eq_mapIdx, hcut, List.mapIdx_singleton, String.ofList_toList]

/-! ### Sources of several lines -/

/-- The lines of a source behind another one come behind the lines of that one. -/
theorem classify_append (front back : String) :
    classify (front ++ "\n" ++ back) =
      classify front ++ (classify back).map (Line.shift (classify front).length) := by
  have hchars : (front ++ "\n" ++ back).toList = front.toList ++ '\n' :: back.toList := by
    rw [String.toList_append, String.toList_append, List.append_assoc]
    rfl
  rw [classify_eq_mapIdx, hchars, Chars.lineChars_append, List.mapIdx_append, ← classify_eq_mapIdx]
  congr 1
  -- the lines of the second source, one by one, so much further down
  refine List.ext_getElem? fun i => ?_
  rw [List.getElem?_map, classify_eq_mapIdx back, List.getElem?_mapIdx, List.getElem?_mapIdx,
    Option.map_map]
  refine Option.map_congr fun cs _ => ?_
  rw [Function.comp_apply, ← Line.classify_add, classify_eq_mapIdx front, List.length_mapIdx,
    Nat.add_right_comm]

/-- **Classification keeps the source.**  There is one line more than there are line feeds, numbered
from one; no line holds a line feed or ends with a carriage return; the lines joined again are the
source without the carriage returns that end its lines, and are classified as the same lines; and
the lines of two sources, one behind the other, are those of the first and those of the second with
higher numbers. -/
theorem classify_keeps_source (source : String) :
    let lines := classify source
    lines.length = source.toList.count '\n' + 1 ∧
      lines.map Line.number = List.range' 1 lines.length ∧
      (∀ line ∈ lines, '\n' ∉ line.raw.toList ∧ line.raw.toList.getLast? ≠ some '\r') ∧
      sourceText lines = String.ofList (Chars.withoutReturns source.toList) ∧
      classify (sourceText lines) = lines ∧
      ∀ front back : String, classify (front ++ "\n" ++ back) =
        classify front ++ (classify back).map (Line.shift (classify front).length) := by
  intro lines
  refine ⟨length_classify source, map_number_classify source,
    fun line hline => oneLine_of_mem_classify hline, ?_, ?_, classify_append⟩
  · rw [← Chars.intercalate_lineChars, ← toList_sourceText_classify, String.ofList_toList]
  · -- joined lines are cut again just where they were joined
    have hlines := Chars.lineChars_intercalate (fun line hline => Chars.of_mem_lineChars hline)
      (Chars.lineChars_ne_nil source.toList)
    rw [classify_eq_mapIdx, toList_sourceText_classify, hlines, ← classify_eq_mapIdx]

end RpgLint
