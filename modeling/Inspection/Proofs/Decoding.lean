import Inspection.Decoding
import Inspection.Proofs.Outcome

/-!
# When decoding succeeds

The JSON values that are read as a given text, list or record.  A field of a
record takes its value from the object or from its place in the list, and the
value that stands in when there is nothing to take.
-/

namespace Inspection

namespace Decoder

variable {α β : Type}

theorem text_eq_ok_iff {value : Json} {read : String} :
    text value = .ok read ↔ value = .str read := by
  cases value <;> simp [text]

theorem optional_text_eq_ok_iff {value : Json} {read : Option String} :
    optional text value = .ok read ↔ value = .optionalText read := by
  cases value <;> cases read <;> simp [optional, text, Json.optionalText, Except.map]

theorem list_eq_ok_iff {decode : Decoder α} {value : Json} {read : List α} :
    list decode value = .ok read ↔ ∃ items, value = .arr items ∧
      List.Forall₂ (fun item x => decode item = .ok x) items read := by
  cases value <;> simp [list, Outcome.mapM_eq_ok_iff]

theorem forall₂_text_iff {items : List Json} {read : List String} :
    List.Forall₂ (fun item x => text item = .ok x) items read ↔ items = read.map .str := by
  simp only [text_eq_ok_iff, ← List.forall₂_eq_eq_eq, List.forall₂_map_right_iff]

namespace Field

/-- What a field is read as, from a value that is there or from nothing. -/
def Reads (field : Field α) : Option Json → α → Prop
  | some value, read => field.decode value = .ok read
  | none, read => field.absent = some read

theorem find_settle_iff {field : Field α} {fields : List (String × Json)} {read : α} :
    (∃ found, field.find fields = .ok found ∧ field.settle found = .ok read) ↔
      field.Reads (Keyed.get? field.name fields) read := by
  simp only [find, settle]
  cases Keyed.get? field.name fields with
  | none => cases habsent : field.absent <;> simp [Reads, habsent]
  | some value => cases hdecode : field.decode value <;> simp [Reads, hdecode, Except.map]

theorem take_eq_ok_iff {field : Field α} {record : String} {position : Nat} {items rest : List Json}
    {read : α} : field.take record position items = .ok (read, rest) ↔
      field.Reads items.head? read ∧ rest = items.tail := by
  cases items with
  | nil => cases habsent : field.absent <;> simp [take, Reads, habsent, eq_comm]
  | cons item items =>
      cases hdecode : field.decode item <;> simp [take, Reads, hdecode, Except.map, eq_comm]

end Field

variable {name : String} {first : Field α} {second : Field β} {read : α × β}

theorem record_obj_eq_ok_iff {fields : List (String × Json)} :
    record name first second (.obj fields) = .ok read ↔
      first.Reads (Keyed.get? first.name fields) read.1 ∧
        second.Reads (Keyed.get? second.name fields) read.2 := by
  simp only [record, Outcome.bind_eq_ok_iff, pure, Except.pure, Except.ok.injEq,
    ← Field.find_settle_iff]
  constructor
  · rintro ⟨one, hone, two, htwo, x, hx, y, hy, rfl⟩
    exact ⟨⟨one, hone, hx⟩, two, htwo, hy⟩
  · rintro ⟨⟨one, hone, hx⟩, two, htwo, hy⟩
    exact ⟨one, hone, two, htwo, read.1, hx, read.2, hy, rfl⟩

theorem record_arr_eq_ok_iff {items : List Json} :
    record name first second (.arr items) = .ok read ↔
      items.length ≤ 2 ∧ first.Reads items[0]? read.1 ∧ second.Reads items[1]? read.2 := by
  have hend : items.tail.tail = [] ↔ items.length ≤ 2 := by
    rw [← List.length_eq_zero_iff, List.length_tail, List.length_tail]
    omega
  simp only [record, Outcome.bind_eq_ok_iff, Prod.exists, Field.take_eq_ok_iff,
    List.head?_eq_getElem?, List.isEmpty_iff, ← hend]
  constructor
  · rintro ⟨x, _, ⟨hx, rfl⟩, y, _, ⟨hy, rfl⟩, hread⟩
    split at hread
    · rename_i hnil
      obtain rfl := Except.ok.inj hread
      exact ⟨hnil, hx, by simpa using hy⟩
    · exact absurd hread (by simp)
  · rintro ⟨hnil, hx, hy⟩
    refine ⟨read.1, items.tail, ⟨hx, rfl⟩, read.2, items.tail.tail, ⟨by simpa using hy, rfl⟩, ?_⟩
    rw [if_pos hnil]
    rfl

theorem requiredText_reads_iff {name read : String} {found : Option Json} :
    (requiredText name).Reads found read ↔ found = some (.str read) := by
  cases found <;> simp [Field.Reads, requiredText, text_eq_ok_iff]

theorem optionalText_reads_iff {name : String} {found : Option Json} {read : Option String} :
    (optionalText name).Reads found read ↔
      found = some (.optionalText read) ∨ found = none ∧ read = none := by
  cases found with
  | none => simp [Field.Reads, optionalText, eq_comm]
  | some value => simp [Field.Reads, optionalText, optional_text_eq_ok_iff]

/-- Of an object such a field is read as any parameter is. -/
theorem optionalText_reads_field_iff {name key : String} {value : Json} {read : Option String} :
    (optionalText name).Reads (value.field? key) read ↔ value.given? key = read.map .str := by
  rw [optionalText_reads_iff, Json.given?]
  cases value.field? key with
  | none => cases read <;> simp
  | some found => cases found <;> cases read <;> simp [Json.optionalText]

end Decoder

namespace Tag

/-- An entry gives a tag, as an object with both texts or as the list of the
two. -/
def Given (entry : Json) (tag : Tag) : Prop :=
  entry.field? "key" = some (.str tag.key) ∧ entry.field? "value" = some (.str tag.value) ∨
    entry = .arr [.str tag.key, .str tag.value]

end Tag

namespace TagEntry

theorem complete?_eq_some_iff {entry : TagEntry} {tag : Tag} :
    entry.complete? = some tag ↔ entry = ⟨some tag.key, some tag.value⟩ := by
  obtain ⟨key, value⟩ := entry
  obtain ⟨tagKey, tagValue⟩ := tag
  cases key <;> cases value <;> simp [complete?]

/-- An entry gives a key and a value, each of which may be missing or null: as
an object, or as the list of the two, which may stop short. -/
def Given (entry : Json) (read : TagEntry) : Prop :=
  (∃ fields, entry = .obj fields) ∧ entry.given? "key" = read.key.map .str ∧
      entry.given? "value" = read.value.map .str ∨
    entry = .arr [.optionalText read.key, .optionalText read.value] ∨
      entry = .arr [.optionalText read.key] ∧ read.value = none ∨
        entry = .arr [] ∧ read.key = none ∧ read.value = none

theorem decode_eq_ok_iff {entry : Json} {read : TagEntry} :
    decode entry = .ok read ↔ Given entry read := by
  have hpair : ∀ pair : Option String × Option String,
      (⟨pair.1, pair.2⟩ : TagEntry) = read ↔ pair = (read.key, read.value) := by
    intro pair
    cases read
    simp [Prod.ext_iff]
  simp only [decode, Outcome.map_eq_ok_iff, hpair, exists_eq_right]
  cases entry with
  | obj fields =>
      have hfield : ∀ key value, (Decoder.optionalText key).Reads (Keyed.get? key fields) value ↔
          (Json.obj fields).given? key = value.map .str := by
        intro key value
        exact @Decoder.optionalText_reads_field_iff key key (.obj fields) value
      rw [Decoder.record_obj_eq_ok_iff]
      simp only [Given, reduceCtorEq, false_and, or_false, Json.obj.injEq, exists_eq', true_and,
        ← hfield]
      rfl
  | arr items =>
      simp only [Decoder.record_arr_eq_ok_iff, Decoder.optionalText_reads_iff, Given, reduceCtorEq,
        exists_false, false_and, false_or, Json.arr.injEq]
      rcases items with _ | ⟨key, _ | ⟨value, _ | ⟨extra, rest⟩⟩⟩ <;> simp
  | _ => simp [Decoder.record, Given]

/-- An entry that gives both gives a tag. -/
theorem given_complete_iff {entry : Json} {tag : Tag} :
    Given entry ⟨some tag.key, some tag.value⟩ ↔ Tag.Given entry tag := by
  have hgiven : ∀ key text, entry.given? key = some (.str text) ↔
      entry.field? key = some (.str text) := by
    intro key text
    rw [Json.given?]
    split <;> simp_all
  cases entry with
  | obj => simp [Given, Tag.Given, hgiven]
  | arr => simp [Given, Tag.Given, Json.field?, Json.optionalText]
  | _ => simp [Given, Tag.Given, Json.field?]

theorem exists_decode_complete_iff {entry : Json} {tag : Tag} :
    (∃ read, decode entry = .ok read ∧ read.complete? = some tag) ↔ Tag.Given entry tag := by
  simp only [decode_eq_ok_iff, complete?_eq_some_iff, exists_eq_right, given_complete_iff]

theorem complete?_eq_none_iff {entry : TagEntry} :
    entry.complete? = none ↔ entry.key = none ∨ entry.value = none := by
  obtain ⟨key, value⟩ := entry
  cases key <;> cases value <;> simp [complete?]

theorem mapM_complete?_eq_none_iff {entries : List TagEntry} :
    entries.mapM complete? = none ↔ ∃ entry ∈ entries, entry.complete? = none := by
  induction entries with
  | nil => simp
  | cons entry rest ih =>
      rw [List.exists_mem_cons_iff, ← ih, List.mapM_cons]
      cases entry.complete? with
      | none => simp
      | some tag => cases rest.mapM complete? <;> simp

theorem given_rightUnique : Relator.RightUnique Tag.Given := by
  intro entry tag other htag hother
  obtain ⟨read, hread, hcomplete⟩ := exists_decode_complete_iff.mpr htag
  obtain ⟨found, hfound, hcomplete'⟩ := exists_decode_complete_iff.mpr hother
  obtain rfl := Except.ok.inj (hread.symm.trans hfound)
  exact Option.some.inj (hcomplete.symm.trans hcomplete')

end TagEntry

namespace Attribute

/-- An entry gives an attribute: its key must be there, and its value counts as
absent when it is null. -/
def Given (entry : Json) (pair : Attribute) : Prop :=
  entry.field? "key" = some (.str pair.key) ∧ entry.given? "value" = pair.value.map .str ∨
    entry = .arr [.str pair.key, .optionalText pair.value] ∨
      entry = .arr [.str pair.key] ∧ pair.value = none

theorem decode_eq_ok_iff {entry : Json} {pair : Attribute} :
    decode entry = .ok pair ↔ Given entry pair := by
  have hread : ∀ read : String × Option String,
      (⟨read.1, read.2⟩ : Attribute) = pair ↔ read = (pair.key, pair.value) := by
    intro read
    cases pair
    simp [Prod.ext_iff]
  simp only [decode, Outcome.map_eq_ok_iff, hread, exists_eq_right]
  cases entry with
  | obj fields =>
      have hvalue : (Decoder.optionalText "value").Reads (Keyed.get? "value" fields) pair.value ↔
          (Json.obj fields).given? "value" = pair.value.map .str :=
        @Decoder.optionalText_reads_field_iff "value" "value" (.obj fields) pair.value
      simp only [Decoder.record_obj_eq_ok_iff, Decoder.requiredText_reads_iff, Given,
        reduceCtorEq, false_and, or_false, ← hvalue]
      rfl
  | arr items =>
      simp only [Decoder.record_arr_eq_ok_iff, Decoder.requiredText_reads_iff,
        Decoder.optionalText_reads_iff, Given, Json.field?, reduceCtorEq, false_and, false_or,
        Json.arr.injEq]
      rcases items with _ | ⟨key, _ | ⟨value, _ | ⟨extra, rest⟩⟩⟩ <;> simp
  | _ => simp [Decoder.record, Given, Json.field?]

theorem given_rightUnique : Relator.RightUnique Given := by
  intro entry pair other hpair hother
  exact Except.ok.inj ((decode_eq_ok_iff.mpr hpair).symm.trans (decode_eq_ok_iff.mpr hother))

end Attribute

end Inspection
