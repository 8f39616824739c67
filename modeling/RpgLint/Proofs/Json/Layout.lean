import RpgLint.Json.Printer
import RpgLint.Json.Reader

/-!
# Layouts

The two written forms of a value differ in the blanks between its parts only: none at all, or a line
for each item and each field.  A layout says which blanks stand where, and both written forms are
that of a layout, so that what is proved of every layout holds of both.

## Main definitions

* `Json.Layout` — the blanks between the parts of a value.
* `Json.Layout.chars` — the characters of a value in a layout.
* `Json.Layout.oneLine`, `Json.Layout.lines` — the layouts in use.

## Main results

* `Json.Layout.chars_oneLine`, `Json.Layout.chars_lines` — the written forms are those of the two
  layouts.
-/

namespace RpgLint.Json

/-- The blanks that a writer puts between the parts of a value. -/
structure Layout where
  /-- In front of an item or a field of the given level, and in front of the bracket that ends the
  level below. -/
  gap : Nat → List Char
  /-- Between the colon behind a name and the value. -/
  afterColon : List Char
  /-- Gaps are blank. -/
  isSpace_of_mem_gap : ∀ level, ∀ c ∈ gap level, isSpace c
  /-- What follows a colon is blank. -/
  isSpace_of_mem_afterColon : ∀ c ∈ afterColon, isSpace c

namespace Layout

variable (layout : Layout)

mutual

/-- The characters of a value that begins on the given level. -/
def chars (level : Nat) : Json → List Char
  | null | unreadable => "null".toList
  | bool value => (if value then "true" else "false").toList
  | number value => value.chars
  | string text => quote text
  | array [] => ['[', ']']
  | array (item :: items) =>
    '[' :: (layout.gap (level + 1) ++ chars (level + 1) item ++ itemChars (level + 1) items ++
      layout.gap level ++ [']'])
  | object [] => ['\x7b', '\x7d']
  | object ((name, value) :: fields) =>
    '\x7b' :: (layout.gap (level + 1) ++ quote name ++ ':' :: layout.afterColon ++
      chars (level + 1) value ++ fieldChars (level + 1) fields ++ layout.gap level ++ ['\x7d'])

/-- The characters of further items of the level, each behind a comma. -/
def itemChars (level : Nat) : List Json → List Char
  | [] => []
  | item :: items => ',' :: layout.gap level ++ chars level item ++ itemChars level items

/-- The characters of further fields of the level, each behind a comma. -/
def fieldChars (level : Nat) : List (String × Json) → List Char
  | [] => []
  | (name, value) :: fields =>
    ',' :: layout.gap level ++ quote name ++ ':' :: layout.afterColon ++ chars level value ++
      fieldChars level fields

end

/-- No blanks. -/
def oneLine : Layout where
  gap _ := []
  afterColon := []
  isSpace_of_mem_gap := nofun
  isSpace_of_mem_afterColon := nofun

/-- A line feed and two blanks for each level, and a blank behind colons. -/
def lines : Layout where
  gap := newLine
  afterColon := [' ']
  isSpace_of_mem_gap := by
    intro level c hc
    rcases List.mem_cons.mp hc with rfl | hc
    · decide
    · obtain rfl := List.eq_of_mem_replicate hc
      decide
  isSpace_of_mem_afterColon := by
    intro c hc
    obtain rfl := List.mem_singleton.mp hc
    decide

mutual

theorem chars_lines (level : Nat) (value : Json) :
    lines.chars level value = prettyChars level value := by
  cases value with
  | array items =>
    cases items with
    | nil => rfl
    | cons item items =>
      simp only [chars, prettyChars, chars_lines (level + 1) item,
        itemChars_lines (level + 1) items]
      rfl
  | object fields =>
    cases fields with
    | nil => rfl
    | cons field fields =>
      obtain ⟨name, value⟩ := field
      simp only [chars, prettyChars, chars_lines (level + 1) value,
        fieldChars_lines (level + 1) fields]
      simp [lines]
  | _ => rfl

theorem itemChars_lines (level : Nat) (items : List Json) :
    lines.itemChars level items = prettyItems level items := by
  cases items with
  | nil => rfl
  | cons item items =>
    simp only [itemChars, prettyItems, chars_lines level item, itemChars_lines level items]
    rfl

theorem fieldChars_lines (level : Nat) (fields : List (String × Json)) :
    lines.fieldChars level fields = prettyFields level fields := by
  cases fields with
  | nil => rfl
  | cons field fields =>
    obtain ⟨name, value⟩ := field
    simp only [fieldChars, prettyFields, chars_lines level value, fieldChars_lines level fields]
    simp [lines]

end

mutual

theorem chars_oneLine (level : Nat) (value : Json) :
    oneLine.chars level value = compactChars value := by
  cases value with
  | array items =>
    cases items with
    | nil => rfl
    | cons item items =>
      simp only [chars, compactChars, compactItems, chars_oneLine (level + 1) item,
        itemChars_oneLine (level + 1) items]
      simp [oneLine]
  | object fields =>
    cases fields with
    | nil => rfl
    | cons field fields =>
      obtain ⟨name, value⟩ := field
      simp only [chars, compactChars, compactFields, chars_oneLine (level + 1) value,
        fieldChars_oneLine (level + 1) fields]
      simp [oneLine]
  | _ => rfl

theorem itemChars_oneLine (level : Nat) (items : List Json) :
    oneLine.itemChars level items = compactItems false items := by
  cases items with
  | nil => rfl
  | cons item items =>
    simp only [itemChars, compactItems, chars_oneLine level item, itemChars_oneLine level items]
    simp [oneLine]

theorem fieldChars_oneLine (level : Nat) (fields : List (String × Json)) :
    oneLine.fieldChars level fields = compactFields false fields := by
  cases fields with
  | nil => rfl
  | cons field fields =>
    obtain ⟨name, value⟩ := field
    simp only [fieldChars, compactFields, chars_oneLine level value,
      fieldChars_oneLine level fields]
    simp [oneLine]

end

end Layout

end RpgLint.Json
