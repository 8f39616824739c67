import Mathlib.Data.List.Sort
import RpgLint.Check.Statement
import RpgLint.Proofs.Line.Continuation
import RpgLint.Proofs.Line.Directives

/-!
# Statements over several lines

A statement begins on a line of code.  It goes on over the lines behind that continue a statement of
its type, and over the comments between them, which say nothing; any other line ends it.  The line
that begins the next statement is such a line, so that no line is read in two statements, and no
comment is read in any.

## Main definitions

* `Line.keepsOpen` — the lines behind which a statement may go on.
* `Line.Extends` — the lines that a statement goes on with.
* `Line.ReadWith` — all lines of a statement.

## Main results

* `statementMembers_eq`, `statementMembers_append` — the lines up to the one that ends the
  statement.
* `mem_statementMembers_iff` — the same lines, told by what stands in front of them.
* `statementGroups_partition` — the statements of a source.
-/

namespace RpgLint

namespace Line

/-- A statement of the type that is open in front of the line is open behind it. -/
def keepsOpen (spec : SpecType) (line : Line) : Bool := line.isComment || line.continuesType spec

/-- A line goes on with the statement that begins on `head`: it stands behind it and continues a
statement of the same type, and in between stand only comments and lines that do so too. -/
structure Extends (line head : Line) (lines : List Line) : Prop where
  /-- The statement begins further up. -/
  later : head.number < line.number
  /-- The line continues a statement. -/
  continues : line.continuesStatement = true
  /-- It is of the same type. -/
  spec_eq : line.spec = head.spec
  /-- Nothing in between ends the statement. -/
  between : ∀ other ∈ lines, head.number < other.number → other.number < line.number →
    other.isComment = true ∨ (other.continuesStatement = true ∧ other.spec = head.spec)

instance (line head : Line) (lines : List Line) : Decidable (line.Extends head lines) :=
  decidable_of_iff
    (head.number < line.number ∧ line.continuesStatement = true ∧ line.spec = head.spec ∧
      ∀ other ∈ lines, head.number < other.number → other.number < line.number →
        other.isComment = true ∨ (other.continuesStatement = true ∧ other.spec = head.spec))
    ⟨fun ⟨later, continues, spec_eq, between⟩ => ⟨later, continues, spec_eq, between⟩,
      fun h => ⟨h.later, h.continues, h.spec_eq, h.between⟩⟩

/-- A line of the statement that begins on `head`: that line, or one that the statement goes on
with. -/
def ReadWith (line head : Line) (lines : List Line) : Prop := line = head ∨ line.Extends head lines

theorem continuesType_iff {spec : SpecType} {line : Line} :
    line.continuesType spec = true ↔ line.continuesStatement = true ∧ line.spec = spec := by
  rw [continuesType, Bool.and_eq_true, beq_iff_eq]

theorem keepsOpen_iff {spec : SpecType} {line : Line} :
    line.keepsOpen spec = true ↔ line.isComment = true ∨
      (line.continuesStatement = true ∧ line.spec = spec) := by
  rw [keepsOpen, Bool.or_eq_true, continuesType_iff]

theorem beginsStatement_iff {line : Line} :
    line.beginsStatement = true ↔ line.isCode = true ∧ line.continuesStatement = false := by
  rw [beginsStatement, Bool.and_eq_true, Bool.not_eq_true']

theorem isComment_of_isCode {line : Line} (h : line.isCode = true) : line.isComment = false :=
  ((isCode_iff line).mp h).2

/-- The line that begins a statement ends any that is open in front of it. -/
theorem keepsOpen_of_beginsStatement {line : Line} (h : line.beginsStatement = true)
    (spec : SpecType) : line.keepsOpen spec = false := by
  obtain ⟨hcode, hcontinues⟩ := beginsStatement_iff.mp h
  rw [keepsOpen, isComment_of_isCode hcode, continuesType, hcontinues]
  rfl

end Line

/-! ### The lines up to the one that ends the statement -/

section

variable (spec : SpecType)

theorem statementMembers_eq (lines : List Line) :
    statementMembers spec lines =
      (lines.takeWhile (·.keepsOpen spec)).filter (·.continuesType spec) := by
  induction lines with
  | nil => rfl
  | cons line lines ih =>
    rw [statementMembers, ih]
    cases hcontinues : line.continuesType spec with
    | true => simp [Line.keepsOpen, hcontinues]
    | false => cases hcomment : line.isComment <;> simp [Line.keepsOpen, hcontinues, hcomment]

/-- A statement goes on with further lines if none of those in front of them ends it. -/
theorem statementMembers_append (front back : List Line) :
    statementMembers spec (front ++ back) =
      statementMembers spec front ++
        if front.all (·.keepsOpen spec) then statementMembers spec back else [] := by
  induction front with
  | nil => rfl
  | cons line front ih =>
    rw [List.cons_append, statementMembers, statementMembers, ih, List.all_cons, Line.keepsOpen]
    cases line.continuesType spec <;> cases line.isComment <;> simp

end

/-! ### The lines told by what stands in front of them -/

section

variable {front back : List Line} {head : Line}
  (hsorted : (front ++ head :: back).Pairwise (·.number < ·.number))

include hsorted

/-- Of sorted lines, those with a greater number stand behind. -/
theorem mem_back_iff {line : Line} :
    line ∈ back ↔ line ∈ front ++ head :: back ∧ head.number < line.number := by
  obtain ⟨-, hback, hcross⟩ := List.pairwise_append.mp hsorted
  constructor
  · intro hline
    exact ⟨List.mem_append_right _ (List.mem_cons_of_mem _ hline),
      (List.pairwise_cons.mp hback).1 line hline⟩
  · rintro ⟨hline, hlater⟩
    rcases List.mem_append.mp hline with hfront | hrest
    · -- a line in front has a smaller number
      exact absurd hlater (Nat.lt_asymm (hcross line hfront head List.mem_cons_self))
    · rcases List.mem_cons.mp hrest with rfl | hmem
      · exact absurd hlater (Nat.lt_irrefl _)
      · exact hmem

/-- **The lines that a statement goes on with.** -/
theorem mem_statementMembers_iff {line : Line} :
    line ∈ statementMembers head.spec back ↔
      line ∈ front ++ head :: back ∧ line.Extends head (front ++ head :: back) := by
  have hback := (List.pairwise_cons.mp (List.pairwise_append.mp hsorted).2.1).2
  rw [statementMembers_eq, List.mem_filter, Line.continuesType_iff]
  constructor
  · rintro ⟨htaken, hcontinues, hspec⟩
    obtain ⟨hmem, hlater⟩ := (mem_back_iff hsorted).mp ((List.takeWhile_prefix _).subset htaken)
    refine ⟨hmem, hlater, hcontinues, hspec, fun other hother hbehind hbefore =>
      Line.keepsOpen_iff.mp ?_⟩
    -- the other line is taken, too, as the first that is not would stand in front of this one
    have hotherBack := (mem_back_iff hsorted).mpr ⟨hother, hbehind⟩
    rw [← List.takeWhile_append_dropWhile (p := (·.keepsOpen head.spec)) (l := back)]
      at hotherBack hback
    rcases List.mem_append.mp hotherBack with hothertaken | hdropped
    · exact List.mem_takeWhile_imp hothertaken
    · have hcross := (List.pairwise_append.mp hback).2.2 line htaken other hdropped
      exact absurd hbefore (Nat.lt_asymm hcross)
  · rintro ⟨hmem, hextends⟩
    have hlineBack := (mem_back_iff hsorted).mpr ⟨hmem, hextends.later⟩
    refine ⟨?_, hextends.continues, hextends.spec_eq⟩
    obtain ⟨before, behind, rfl⟩ := List.append_of_mem hlineBack
    -- nothing in front of the line ends the statement
    have hopen : ∀ other ∈ before, other.keepsOpen head.spec = true := by
      intro other hother
      have hbefore := (List.pairwise_append.mp hback).2.2 other hother line List.mem_cons_self
      obtain ⟨hotherMem, hbehind⟩ := (mem_back_iff hsorted).mp (List.mem_append_left _ hother)
      exact Line.keepsOpen_iff.mpr (hextends.between other hotherMem hbehind hbefore)
    have hline : line.keepsOpen head.spec = true :=
      Line.keepsOpen_iff.mpr (.inr ⟨hextends.continues, hextends.spec_eq⟩)
    rw [List.takeWhile_append_of_pos hopen, List.takeWhile_cons, if_pos hline]
    exact List.mem_append_right _ List.mem_cons_self

theorem statementMembers_eq_filter :
    statementMembers head.spec back =
      (front ++ head :: back).filter fun line => line.Extends head (front ++ head :: back) := by
  have hback := (List.pairwise_cons.mp (List.pairwise_append.mp hsorted).2.1).2
  -- both lists are sorted by number, so that their members decide
  have hmembers : (statementMembers head.spec back).Pairwise (·.number < ·.number) := by
    rw [statementMembers_eq]
    exact (hback.sublist (List.takeWhile_sublist _)).filter _
  have : Std.Antisymm fun a b : Line => a.number < b.number :=
    ⟨fun a b hab hba => absurd hab (Nat.lt_asymm hba)⟩
  have : Std.Irrefl fun a b : Line => a.number < b.number := ⟨fun a => Nat.lt_irrefl a.number⟩
  refine hmembers.eq_of_mem_iff (hsorted.filter _) fun line => ?_
  rw [mem_statementMembers_iff hsorted, List.mem_filter, decide_eq_true_eq]

end

/-! ### The statements of a source -/

/-- The statement of sorted lines that begins on one of them. -/
def StatementGroup.among (lines : List Line) (head : Line) : StatementGroup :=
  { head := head
    text :=
      String.join (head.raw :: (lines.filter fun line => line.Extends head lines).map Line.raw) }

theorem statementGroups_eq (front : List Line) {back : List Line}
    (hsorted : (front ++ back).Pairwise (·.number < ·.number)) :
    statementGroups back = (back.filter Line.beginsStatement).map
      (StatementGroup.among (front ++ back)) := by
  induction back generalizing front with
  | nil => rfl
  | cons line back ih =>
    have hrest := ih (front ++ [line]) (by rwa [List.append_assoc])
    rw [List.append_assoc] at hrest
    rw [statementGroups, List.filter_cons, hrest]
    split
    · rw [List.map_cons, StatementGroup.of, statementMembers_eq_filter hsorted]
      rfl
    · rfl

section

variable {lines : List Line} {line head other : Line}

/-- No statement goes on with a line that begins one. -/
theorem Line.Extends.not_beginsStatement (h : line.Extends head lines) :
    line.beginsStatement = false := by
  rw [Line.beginsStatement, h.continues, Bool.not_true, Bool.and_false]

/-- No statement begins on a line between those of another one. -/
theorem Line.Extends.le_of_beginsStatement (h : line.Extends head lines) (hother : other ∈ lines)
    (hbegins : other.beginsStatement = true) (hbefore : other.number < line.number) :
    other.number ≤ head.number := by
  by_contra hbehind
  have hopen := Line.keepsOpen_iff.mpr (h.between other hother (Nat.lt_of_not_le hbehind) hbefore)
  rw [Line.keepsOpen_of_beginsStatement hbegins] at hopen
  cases hopen

/-- A line is read in one statement only, as far as numbers tell. -/
theorem number_eq_of_readWith (hhead : head ∈ lines) (hother : other ∈ lines)
    (hheadBegins : head.beginsStatement = true) (hotherBegins : other.beginsStatement = true)
    (h : line.ReadWith head lines) (h' : line.ReadWith other lines) :
    head.number = other.number := by
  rcases h with rfl | hextends <;> rcases h' with rfl | hextends'
  · rfl
  · -- a line that begins a statement goes on with none
    rw [hextends'.not_beginsStatement] at hheadBegins
    cases hheadBegins
  · rw [hextends.not_beginsStatement] at hotherBegins
    cases hotherBegins
  · -- neither begins between the other and the line
    exact Nat.le_antisymm (hextends'.le_of_beginsStatement hhead hheadBegins hextends.later)
      (hextends.le_of_beginsStatement hother hotherBegins hextends'.later)

end

/-- **The statements of a source.**  They begin on the lines of code that continue no statement, in
order, and the text of each is that of its first line and of the lines that it goes on with.  A line
is read in one statement at most, and a comment marked in column 7 in none. -/
theorem statementGroups_partition (source : String) :
    let lines := classify source
    let heads := lines.filter fun line => line.isCode && !line.continuesStatement
    let text := fun head : Line =>
      String.join (head.raw :: (lines.filter fun line => line.Extends head lines).map Line.raw)
    statementGroups lines = heads.map (fun head => { head := head, text := text head }) ∧
      (∀ line ∈ lines, ∀ head ∈ heads, ∀ other ∈ heads,
        line.ReadWith head lines → line.ReadWith other lines → head = other) ∧
      ∀ line ∈ lines, line.isComment = true → ∀ head ∈ heads, ¬line.ReadWith head lines := by
  intro lines heads text
  have hsorted : lines.Pairwise (·.number < ·.number) :=
    List.pairwise_map.mp (pairwise_number_classify source)
  have hheads : ∀ head ∈ heads, head ∈ lines ∧ head.beginsStatement = true :=
    fun head => List.mem_filter.mp
  refine ⟨statementGroups_eq [] hsorted, ?_, ?_⟩
  · intro line _ head hhead other hother h h'
    obtain ⟨hmem, hbegins⟩ := hheads head hhead
    obtain ⟨hotherMem, hotherBegins⟩ := hheads other hother
    exact eq_of_number_eq hmem hotherMem
      (number_eq_of_readWith hmem hotherMem hbegins hotherBegins h h')
  · rintro line hline hcomment head hhead (rfl | hextends)
    · -- a comment begins no statement
      have hcode := (Line.beginsStatement_iff.mp (hheads line hhead).2).1
      rw [Line.isComment_of_isCode hcode] at hcomment
      cases hcomment
    · -- and goes on with none
      obtain ⟨number, raw, rfl⟩ := exists_classify_of_mem hline
      have hcontinues := hextends.continues
      rw [Line.continuesStatement_of_isComment hcomment] at hcontinues
      cases hcontinues

/-- A definition that goes on behind a comment, and a calculation. -/
example : (statementGroups (classify "     Da  DIM(\n     D* rows\n     D-  5)\n     C")).map
    (·.text) = ["     Da  DIM(     D-  5)", "     C"] := by
  decide

end RpgLint
