import Mathlib.Data.List.Nodup
import RpgLint.Json.Record
import RpgLint.Proofs.Json.RoundTrip

/-!
# Reading records

A record is written without the fields that have no value.  As long as its field names differ, each
slot is read back as it was: the value of a field that was written, and nothing for one that was
left out.

## Main results

* `Json.isPlain_record` — a record is plain when each value that is written is.
* `Json.slots?_record` — the slots of a written record.
* `Slot.optional?_map` — an optional field.
-/

namespace RpgLint

namespace Json

/-- The fields of a record that are written. -/
def writtenFields (fields : List (String × Option Json)) : List (String × Json) :=
  fields.filterMap fun (name, value) => value.map (name, ·)

theorem mem_writtenFields {fields : List (String × Option Json)} {field : String × Json} :
    field ∈ writtenFields fields ↔ (field.1, some field.2) ∈ fields := by
  obtain ⟨name, value⟩ := field
  simp [writtenFields]

theorem map_fst_writtenFields_sublist (fields : List (String × Option Json)) :
    ((writtenFields fields).map Prod.fst).Sublist (fields.map Prod.fst) := by
  induction fields with
  | nil => exact List.Sublist.refl _
  | cons field fields ih =>
    obtain ⟨name, value⟩ := field
    cases value with
    | none => exact ih.cons name
    | some value => exact ih.cons_cons name

/-- The slot of a field is what was written for it. -/
theorem find?_writtenFields {fields : List (String × Option Json)}
    (hnodup : (fields.map Prod.fst).Nodup) {name : String} {slot : Option Json}
    (hmem : (name, slot) ∈ fields) :
    ((writtenFields fields).find? (·.1 == name)).map Prod.snd = slot := by
  cases hfind : (writtenFields fields).find? (·.1 == name) with
  | none =>
    -- nothing is written under the name, so the field has no value
    rw [List.find?_eq_none] at hfind
    cases slot with
    | none => rfl
    | some value =>
      have habsent := hfind (name, value) (mem_writtenFields.mpr hmem)
      simp at habsent
  | some field =>
    have hname : field.1 = name := by simpa using List.find?_some hfind
    have hwritten := mem_writtenFields.mp (List.mem_of_find?_eq_some hfind)
    rw [hname] at hwritten
    -- names differ, so both entries are one
    have hinj := List.inj_on_of_nodup_map hnodup hwritten hmem rfl
    exact (Prod.mk.inj hinj).2

/-- **Every slot of a written record is read back**, when the record is asked for its own fields. -/
theorem slots?_record {value : Json} {fields : List (String × Option Json)} {names : List String}
    (hvalue : value = record fields) (hnames : fields.map Prod.fst = names) (hnodup : names.Nodup) :
    value.slots? names = some (fields.map Prod.snd) := by
  subst hvalue hnames
  -- a name is written no more than once, so no field counts as given twice
  have honce : ∀ name, (writtenFields fields).countP (·.1 == name) ≤ 1 := by
    intro name
    have hnames := hnodup.sublist (map_fst_writtenFields_sublist fields)
    have hcount := List.nodup_iff_count_le_one.mp hnames name
    rwa [List.count, List.countP_map] at hcount
  -- every name is asked for in turn
  have hslots : (fields.map Prod.fst).map
      (fun name => ((writtenFields fields).find? (·.1 == name)).map Prod.snd) =
        fields.map Prod.snd := by
    rw [List.map_map]
    apply List.map_congr_left
    rintro ⟨name, slot⟩ hmem
    exact find?_writtenFields hnodup hmem
  have hany : (fields.map Prod.fst).any
      (fun name => 1 < (writtenFields fields).countP (·.1 == name)) = false := by
    rw [List.any_eq_false]
    intro name _
    simpa using honce name
  have hrecord : record fields = object (writtenFields fields) := rfl
  rw [hrecord, slots?, hany, hslots]
  rfl

/-! ### Plain records -/

theorem isPlain_record (fields : List (String × Option Json)) :
    (record fields).isPlain = fields.all fun field => field.2.all isPlain := by
  show arePlainFields (writtenFields fields) = _
  induction fields with
  | nil => rfl
  | cons field fields ih =>
    obtain ⟨name, slot⟩ := field
    rw [List.all_cons, ← ih]
    cases slot with
    | none => rfl
    | some value => rfl

/-- A text that may be missing is plain when it is written. -/
@[simp] theorem all_isPlain_map_string (text : Option String) : (text.map string).all isPlain := by
  cases text <;> rfl

/-- A number that may be missing is plain when it is written. -/
@[simp] theorem all_isPlain_map_nat (n : Option Nat) : (n.map nat).all isPlain := by
  cases n <;> rfl

theorem arePlain_map {α : Type} {encode : α → Json} (h : ∀ a, (encode a).isPlain) (as : List α) :
    arePlain (as.map encode) := by
  induction as with
  | nil => rfl
  | cons a as ih =>
    rw [List.map_cons, arePlain, h a, ih]
    rfl

end Json

/-- An optional field is read back, as long as its value is and is not written as `null`. -/
theorem Slot.optional?_map {α : Type} {decode : Json → Option α} {encode : α → Json}
    {value : Option α} (hdecode : ∀ a ∈ value, decode (encode a) = some a)
    (hnull : ∀ a, encode a ≠ .null) : Slot.optional? decode (value.map encode) = some value := by
  cases value with
  | none => rfl
  | some a =>
    rw [Option.map_some]
    unfold optional?
    split
    · next heq => cases heq
    · next heq => exact absurd (Option.some.inj heq) (hnull a)
    · next heq =>
      rw [← Option.some.inj heq, hdecode a rfl]
      rfl

end RpgLint
