import RpgLint.Text.Letters

/-!
# Levels and scopes

The level says how many rules run: each level includes the ones below it.  The scope picks one group
of rules.

## Main definitions

* `Level`, `Scope` — the choices.
* `Level.rank`, and the order `≤` by it.
* `Level.vocabulary`, `Scope.vocabulary` — the words for them.
-/

namespace RpgLint

/-- How many rules run. -/
inductive Level
  /-- Only what a compiler rejects. -/
  | basic
  /-- Names, indicators and jumps in addition. -/
  | standard
  /-- Style advice in addition. -/
  | strict
  deriving DecidableEq, Repr, Inhabited

namespace Level

/-- Every level, the smallest first. -/
def all : List Level := [basic, standard, strict]

/-- Written name. -/
def name : Level → String
  | basic => "basic"
  | standard => "standard"
  | strict => "strict"

/-- Place among the levels. -/
def rank : Level → Nat
  | basic => 0
  | standard => 1
  | strict => 2

/-- Levels are ordered by their rank. -/
instance : LE Level := ⟨fun a b => a.rank ≤ b.rank⟩

instance (a b : Level) : Decidable (a ≤ b) := inferInstanceAs (Decidable (a.rank ≤ b.rank))

/-- Standard or above. -/
def atLeastStandard : Level → Bool
  | basic => false
  | standard | strict => true

/-- The highest level. -/
def isStrict : Level → Bool
  | strict => true
  | basic | standard => false

theorem atLeastStandard_iff {level : Level} : level.atLeastStandard ↔ standard ≤ level := by
  cases level <;> decide

theorem isStrict_iff {level : Level} : level.isStrict ↔ strict ≤ level := by
  cases level <;> decide

theorem atLeastStandard_mono {low high : Level} (h : low ≤ high) (hlow : low.atLeastStandard) :
    high.atLeastStandard :=
  atLeastStandard_iff.mpr (Nat.le_trans (atLeastStandard_iff.mp hlow) h)

theorem isStrict_mono {low high : Level} (h : low ≤ high) (hlow : low.isStrict) :
    high.isStrict :=
  isStrict_iff.mpr (Nat.le_trans (isStrict_iff.mp hlow) h)

/-- The level with exactly the written name. -/
def ofName? (name : String) : Option Level := all.find? (·.name == name)

/-- The words by which a user names a level: the written names. -/
def vocabulary : Vocabulary Level :=
  { words := all.map fun level => (level.name, level)
    unknown := fun word => s!"Unknown check level: {word} (expected basic, standard or strict)" }

/-- A written name is read as its level. -/
theorem read_name (level : Level) : vocabulary.read level.name = .ok level := by
  cases level <;> rfl

end Level

/-- Which group of rules runs. -/
inductive Scope
  /-- All rules at the chosen level. -/
  | all
  /-- Order of specifications. -/
  | order
  /-- Columns and line length. -/
  | columns
  /-- Names. -/
  | naming
  /-- Legacy constructs and the user's own rules. -/
  | bestPractice
  deriving DecidableEq, Repr, Inhabited

/-- The words by which a user names a scope. -/
def Scope.vocabulary : Vocabulary Scope :=
  { words := [("all", all), ("order", order), ("columns", columns), ("naming", naming),
      ("best-practice", bestPractice), ("best_practice", bestPractice)]
    unknown := fun word => s!"Unknown check scope: {word}" }

end RpgLint
