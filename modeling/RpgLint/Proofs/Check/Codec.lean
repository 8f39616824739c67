import RpgLint.Check.Codec
import RpgLint.Proofs.Rule.Codec

/-!
# Reading findings

The text that is written for a finding describes exactly this finding, on one line or on several, as
long as its numbers fit into 64 bits.  Together with the texts of rule files these are all the
records that are read again.

## Main definitions

* `Issue.FitsWords` — the numbers of a finding fit into 64 bits.

## Main results

* `Issue.ofJson?_toJson` — a finding and its record.
* `readsBack_of_fitsWords` — rule files and findings, and their texts.
-/

namespace RpgLint

/-- A number that fits into 64 bits is read back. -/
theorem Json.nat64?_nat {n : Nat} (h : n < UInt64.size) : nat64? (nat n) = some n := if_pos h

namespace Issue

/-- The numbers of the finding fit into 64 bits. -/
structure FitsWords (issue : Issue) : Prop where
  /-- The number of the line does. -/
  line : issue.line < UInt64.size
  /-- The first column does, if there is one. -/
  column : ∀ n ∈ issue.column, n < UInt64.size
  /-- The last column does, if there is one. -/
  endColumn : ∀ n ∈ issue.endColumn, n < UInt64.size

theorem isPlain_toJson (issue : Issue) : issue.toJson.isPlain := by
  rw [toJson, Json.isPlain_record]
  simp [Json.isPlain, Json.nat]

theorem fieldNames_nodup : fieldNames.Nodup := by decide

/-- **A finding is what its record describes.** -/
theorem ofJson?_toJson {issue : Issue} (h : issue.FitsWords) :
    ofJson? issue.toJson = some issue := by
  have hslots : issue.toJson.slots? fieldNames =
      some [some (.string issue.severity.name), some (.string issue.category.name),
        some (.nat issue.line), issue.column.map .nat, issue.endColumn.map .nat,
        some (.string issue.message), some (.string issue.rule), issue.description.map .string,
        issue.suggestion.map .string, issue.snippet.map .string, issue.correction.map .string] :=
    Json.slots?_record rfl rfl fieldNames_nodup
  have hseverity : Json.word? Severity.ofName? (.string issue.severity.name) =
      some issue.severity :=
    Severity.ofName?_name _
  have hcategory : Json.word? Category.ofName? (.string issue.category.name) =
      some issue.category :=
    Category.ofName?_name _
  -- fields that may be left out are read back whether they were written or not
  have hcolumn : Slot.optional? Json.nat64? (issue.column.map .nat) = some issue.column :=
    Slot.optional?_map (fun n hn => Json.nat64?_nat (h.column n hn)) (fun _ => nofun)
  have hendColumn : Slot.optional? Json.nat64? (issue.endColumn.map .nat) = some issue.endColumn :=
    Slot.optional?_map (fun n hn => Json.nat64?_nat (h.endColumn n hn)) (fun _ => nofun)
  have htext : ∀ text : Option String,
      Slot.optional? Json.text? (text.map Json.string) = some text :=
    fun _ => Slot.optional?_map (fun _ _ => rfl) (fun _ => nofun)
  rw [ofJson?, hslots]
  simp only [Slot.required?, Option.bind_some, hseverity, hcategory, Json.nat64?_nat h.line,
    hcolumn, hendColumn, htext]
  rfl

end Issue

/-- **Records are read back as they were written.**  The text of a rule file describes the same
version and the same rules in the same order, and the text of a finding describes the same finding,
in both layouts and whichever fields it lacks. -/
theorem readsBack_of_fitsWords (file : RuleFile) {issue : Issue} (h : issue.FitsWords) :
    RuleFile.read? file.exportText = some file ∧
      (Json.read? issue.toJson.pretty).bind Issue.ofJson? = some issue ∧
      (Json.read? issue.toJson.compact).bind Issue.ofJson? = some issue := by
  refine ⟨file.read?_exportText, ?_, ?_⟩
  · rw [Json.read?_pretty issue.isPlain_toJson]
    exact Issue.ofJson?_toJson h
  · rw [Json.read?_compact issue.isPlain_toJson]
    exact Issue.ofJson?_toJson h

/-- Quotes, backslashes and control characters, the greatest number, and fields that are left
out. -/
theorem readsBack_escapes_and_greatest_number :
    let file : RuleFile :=
      { version := "\"2\"\n"
        rules :=
          [{ id := "\\A\x00", name := "ä\u2028", category := .bestPractice, severity := .warning,
              enabled := false, pattern := some "\t\"", message := "" }] }
    let issue : Issue :=
      { severity := .info, category := .bestPractice, line := 18446744073709551615,
        endColumn := some 18446744073709551615, message := "\"\\\x1f", rule := "A",
        snippet := some "'\r" }
    issue.FitsWords ∧ RuleFile.read? file.exportText = some file ∧
      (Json.read? issue.toJson.pretty).bind Issue.ofJson? = some issue ∧
      (Json.read? issue.toJson.compact).bind Issue.ofJson? = some issue := by
  intro file issue
  have hfits : issue.FitsWords :=
    { line := by decide
      column := nofun
      endColumn := by
        rintro n ⟨⟩
        decide }
  exact ⟨hfits, readsBack_of_fitsWords file hfits⟩

end RpgLint
