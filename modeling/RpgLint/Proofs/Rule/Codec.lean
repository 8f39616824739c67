import Mathlib.Data.List.Nodup
import RpgLint.Proofs.Json.Record
import RpgLint.Rule.Codec

/-!
# Reading rule files

The text that is written for the rules of a file describes exactly these rules.

## Main results

* `Rule.ofJson?_toJson` — a rule and its record.
* `RuleFile.ofJson?_toJson` — the rules of a file and their record.
* `RuleFile.read?_exportText` — the rules of a file and their text.
-/

namespace RpgLint

/-! ### Names from a fixed list -/

theorem Category.ofName?_name (category : Category) : ofName? category.name = some category := by
  cases category <;> decide

theorem Severity.ofName?_name (severity : Severity) : ofName? severity.name = some severity := by
  cases severity <;> decide

/-! ### Lists -/

/-- A list is read back when each of its members is. -/
theorem mapM_map_of_decode {α β : Type} {decode : β → Option α} {encode : α → β}
    (hdecode : ∀ a, decode (encode a) = some a) (as : List α) :
    (as.map encode).mapM decode = some as := by
  induction as with
  | nil => rfl
  | cons a as ih =>
    rw [List.map_cons, List.mapM_cons, hdecode, ih]
    rfl

/-! ### Rules -/

namespace Rule

theorem isPlain_toJson (rule : Rule) : rule.toJson.isPlain := by
  rw [toJson, Json.isPlain_record]
  simp [Json.isPlain]

theorem fieldNames_nodup : fieldNames.Nodup := by decide

/-- **A rule is what its record describes.** -/
theorem ofJson?_toJson (rule : Rule) : ofJson? rule.toJson = some rule := by
  have hslots : rule.toJson.slots? fieldNames =
      some [some (.string rule.id), some (.string rule.name), some (.string rule.description),
        some (.string rule.category.name), some (.string rule.severity.name),
        some (.bool rule.enabled), rule.pattern.map .string, some (.string rule.message),
        rule.suggestion.map .string] :=
    Json.slots?_record rfl rfl fieldNames_nodup
  have hcategory : Json.word? Category.ofName? (.string rule.category.name) = some rule.category :=
    Category.ofName?_name _
  have hseverity : Json.word? Severity.ofName? (.string rule.severity.name) = some rule.severity :=
    Severity.ofName?_name _
  -- a field that is left out is read as none
  have htext : ∀ text : Option String,
      Slot.optional? Json.text? (text.map Json.string) = some text :=
    fun _ => Slot.optional?_map (fun _ _ => rfl) (fun _ => nofun)
  rw [ofJson?, hslots]
  simp only [Slot.required?, Slot.orDefault?, Option.bind_some, hcategory, hseverity, htext]
  rfl

theorem listOfJson?_map_toJson (rules : List Rule) :
    listOfJson? (.array (rules.map toJson)) = some rules :=
  mapM_map_of_decode ofJson?_toJson rules

end Rule

/-! ### Files -/

namespace RuleFile

theorem isPlain_toJson (file : RuleFile) : file.toJson.isPlain := by
  rw [toJson, Json.isPlain_record]
  simp [Json.isPlain, Json.arePlain_map Rule.isPlain_toJson]

/-- **The rules of a file are what their record describes.** -/
theorem ofJson?_toJson (file : RuleFile) : ofJson? file.toJson = some file := by
  have hslots : file.toJson.slots? ["version", "rules"] =
      some [some (.string file.version), some (.array (file.rules.map Rule.toJson))] :=
    Json.slots?_record rfl rfl (by decide)
  rw [ofJson?, hslots]
  simp only [Slot.required?, Slot.orDefault?, Option.bind_some, Rule.listOfJson?_map_toJson]
  rfl

/-- **The rules of a file are what their text describes**, version and order included. -/
theorem read?_exportText (file : RuleFile) : read? file.exportText = some file := by
  rw [read?, exportText, Json.read?_pretty file.isPlain_toJson]
  exact file.ofJson?_toJson

/-- The rules of a file are what their text describes, whatever space stands behind it. -/
theorem read?_exportText_append (file : RuleFile) {gap : String}
    (hgap : ∀ c ∈ gap.toList, Json.isSpace c) :
    read? (file.exportText ++ gap) = some file := by
  rw [read?, exportText, Json.read?_pretty_append file.isPlain_toJson hgap]
  exact file.ofJson?_toJson

end RuleFile

end RpgLint
