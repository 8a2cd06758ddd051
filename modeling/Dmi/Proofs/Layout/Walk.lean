/-
**One step of a walk.**

A walk meets the first field, and goes on behind it. What it makes of a field depends on how it
meets it: `Layout.visit` says so for a plain field and `Layout.visitRecord` for a record. Main
statements:

* `Layout.walk_field`, `Layout.walk_record` — the step;
* `Layout.fieldValue_of_visit`, `Layout.recordValue_of_visitRecord` — what it gives;
* `Layout.result_visit_eq_error_iff`, `Layout.result_visitRecord_eq_error_iff` — how it fails;
* `Layout.complete_field_iff`, `Layout.complete_record_iff` — when a complete reading succeeds.
-/

import Dmi.Layout.Decode

namespace Dmi

/-! ### One field -/

namespace Kind

variable {policy : StringPolicy} {body : Body} {record field : String} {offset next : Nat}
  {value : Value}

theorem read_number_eq_ok_iff {width : Width} :
    ((number width).read policy body record field offset).result = .ok (value, next) ↔
      ∃ n, body.number width offset = .ok n ∧ value = .number width n ∧
        next = offset + width.size := by
  simp only [read, Lenient.bind_eq_andThen, Lenient.result_andThen_eq_ok, Lenient.result_ofExcept,
    Lenient.result_pure, Except.ok.injEq, Prod.mk.injEq]
  exact exists_congr fun n => and_congr_right fun _ => and_congr eq_comm eq_comm

theorem read_text_eq_ok_iff :
    (text.read policy body record field offset).result = .ok (value, next) ↔
      ∃ found, (readText policy body record field offset).result = .ok found ∧
        value = .text found ∧ next = offset + 1 := by
  simp only [read, Lenient.bind_eq_andThen, Lenient.result_andThen_eq_ok, Lenient.result_pure,
    Except.ok.injEq, Prod.mk.injEq]
  exact exists_congr fun found => and_congr_right fun _ => and_congr eq_comm eq_comm

theorem read_bytes_eq_ok_iff {count : Nat} :
    ((bytes count).read policy body record field offset).result = .ok (value, next) ↔
      ∃ found, body.bytes offset count = .ok found ∧ value = .bytes found ∧
        next = offset + count := by
  simp only [read, Lenient.bind_eq_andThen, Lenient.result_andThen_eq_ok, Lenient.result_ofExcept,
    Lenient.result_pure, Except.ok.injEq, Prod.mk.injEq]
  exact exists_congr fun found => and_congr_right fun _ => and_congr eq_comm eq_comm

theorem read_list_eq_ok_iff {kind : ListKind} :
    ((list kind).read policy body record field offset).result = .ok (value, next) ↔
      ∃ consumed, kind.read body offset = .ok (value, consumed) ∧ next = offset + consumed := by
  simp only [read, Lenient.bind_eq_andThen, Lenient.result_andThen_eq_ok, Lenient.result_ofExcept,
    Lenient.result_pure, Except.ok.injEq, Prod.mk.injEq]
  constructor
  · rintro ⟨⟨items, consumed⟩, found, rfl, rfl⟩
    exact ⟨consumed, found, rfl⟩
  · rintro ⟨consumed, found, rfl⟩
    exact ⟨(value, consumed), found, rfl, rfl⟩

/-- A text that is read is the one of the number at its offset. Only the tolerant policy goes on
without a text. -/
theorem readText_eq_ok_iff {found : Text} :
    (readText policy body record field offset).result = .ok found ↔
      ∃ index, body.byte offset = .ok index ∧
        (body.string index = .ok found ∨
          ∃ error, body.string index = .error error ∧ policy = .tolerant ∧
            found = .badIndex index) := by
  unfold readText
  cases body.byte offset with
  | error error => simp [Lenient.fail]
  | ok index =>
    cases string : body.string index <;> cases policy <;>
      simp [Lenient.fail, Lenient.tolerate, string]
    exact eq_comm

end Kind

namespace Slot

theorem isBehind_eq_false_iff {slot : Slot} {size offset : Nat} :
    slot.isBehind size offset = false ↔
      offset < size ∧ (slot.ignored = false → offset + slot.skip < size) := by
  unfold isBehind
  cases slot.ignored <;> simp

/-- A field in front of the end is passed over or read, whatever kind of reading it is. -/
theorem encounter_false (slot : Slot) (complete : Bool) :
    slot.encounter complete false = if slot.ignored then .ignored else .present := rfl

end Slot

namespace Layout

variable {policy : StringPolicy} {body : Body} {title : String}

theorem walk_field (complete stopped : Bool) (slot : Slot) (kind : Kind) (rest : Layout)
    (offset : Nat) :
    walk policy body title complete stopped (field slot kind rest) offset =
      (visit policy body title slot kind
        (slot.encounter complete (stopped || slot.isBehind body.size offset)) offset).inFront
        (walk policy body title complete (stopped || slot.isBehind body.size offset) rest) := rfl

theorem walk_record (complete stopped : Bool) (slot : Slot) (name : String) (inner rest : Layout)
    (offset : Nat) :
    walk policy body title complete stopped (record slot name inner rest) offset =
      (visitRecord policy body title slot name inner
        (slot.encounter complete (stopped || slot.isBehind body.size offset)) offset).inFront
        (walk policy body title complete (stopped || slot.isBehind body.size offset) rest) := rfl

/-! ### What a field is worth -/

/-- The value of a field that is no record, by the way in which it is met, with the offset behind
it. -/
inductive FieldValue (policy : StringPolicy) (body : Body) (title : String) (slot : Slot)
    (kind : Kind) (offset : Nat) : Encounter → Value → Nat → Prop
  | present {value : Value} {next : Nat}
      (read : (kind.read policy body title slot.name (offset + slot.skip)).result =
        .ok (value, next)) :
    FieldValue policy body title slot kind offset .present value next
  | ignored {value : Value} (absent : kind.absent slot.default = .ok value) :
    FieldValue policy body title slot kind offset .ignored value offset
  | missing {value : Value} (absent : kind.absent slot.default = .ok value) :
    FieldValue policy body title slot kind offset .missing value offset

/-- The value of a record inside another, by the way in which it is met, with the offset behind it.
A missing record is read from where the walk has stopped, and the walk stays there. -/
inductive RecordValue (policy : StringPolicy) (body : Body) (slot : Slot) (name : String)
    (inner : Layout) (offset : Nat) : Encounter → Value → Nat → Prop
  | present {fields : List Value} {next : Nat}
      (walked : (walk policy body name true false inner (offset + slot.skip)).result =
        .ok (fields, next)) :
    RecordValue policy body slot name inner offset .present (.record fields) next
  | ignored {fields : List Value} (absent : inner.absent = .ok fields) :
    RecordValue policy body slot name inner offset .ignored (.record fields) offset
  | missing {fields : List Value} {last : Nat} (kept : slot.ignored = false)
      (walked : (walk policy body name false false inner offset).result = .ok (fields, last)) :
    RecordValue policy body slot name inner offset .missing (.record fields) offset
  | missingIgnored {fields : List Value} (ignored : slot.ignored = true)
    (absent : inner.absent = .ok fields) :
    RecordValue policy body slot name inner offset .missing (.record fields) offset

theorem visitRecord_of_missing (slot : Slot) (name : String) (inner : Layout) (offset : Nat) :
    visitRecord policy body title slot name inner .missing offset =
      if slot.ignored then
        ((Lenient.ofExcept inner.absent).map
          fun fields => (Value.record fields, offset)).inField title slot.name
      else (walk policy body name false false inner offset).map
        fun (fields, _) => (.record fields, offset) := rfl

theorem fieldValue_of_visit {slot : Slot} {kind : Kind} {met : Encounter} {offset next : Nat}
    {value : Value}
    (found : (visit policy body title slot kind met offset).result = .ok (value, next)) :
    FieldValue policy body title slot kind offset met value next := by
  cases met with
  | present => exact .present (Lenient.result_inField_eq_ok.mp found)
  | ignored =>
    obtain ⟨_, absent, same⟩ := Lenient.result_map_eq_ok.mp found
    cases same
    exact .ignored absent
  | missing =>
    obtain ⟨_, absent, same⟩ := Lenient.result_map_eq_ok.mp (Lenient.result_inField_eq_ok.mp found)
    cases same
    exact .missing absent
  | cutShort => cases found

theorem recordValue_of_visitRecord {slot : Slot} {name : String} {inner : Layout} {met : Encounter}
    {offset next : Nat} {value : Value}
    (found : (visitRecord policy body title slot name inner met offset).result =
      .ok (value, next)) :
    RecordValue policy body slot name inner offset met value next := by
  cases met with
  | present =>
    obtain ⟨_, walked, same⟩ := Lenient.result_map_eq_ok.mp found
    cases same
    exact .present (Lenient.result_inField_eq_ok.mp walked)
  | ignored =>
    obtain ⟨_, absent, same⟩ := Lenient.result_map_eq_ok.mp found
    cases same
    exact .ignored absent
  | missing =>
    rw [visitRecord_of_missing] at found
    cases ignored : slot.ignored with
    | true =>
      rw [ignored, if_pos rfl] at found
      obtain ⟨_, absent, same⟩ :=
        Lenient.result_map_eq_ok.mp (Lenient.result_inField_eq_ok.mp found)
      cases same
      exact .missingIgnored ignored absent
    | false =>
      rw [ignored, if_neg Bool.false_ne_true] at found
      obtain ⟨_, walked, same⟩ := Lenient.result_map_eq_ok.mp found
      cases same
      exact .missing ignored walked
  | cutShort => cases found

/-! ### How a field fails -/

/-- How a field that is no record fails, by the way in which it is met. -/
inductive FieldError (policy : StringPolicy) (body : Body) (title : String) (slot : Slot)
    (kind : Kind) (offset : Nat) : Encounter → Error → Prop
  | present {cause : Error}
      (read : (kind.read policy body title slot.name (offset + slot.skip)).result = .error cause) :
    FieldError policy body title slot kind offset .present (.inField title slot.name cause)
  | ignored {error : Error} (absent : kind.absent slot.default = .error error) :
    FieldError policy body title slot kind offset .ignored error
  | missing {cause : Error} (absent : kind.absent slot.default = .error cause) :
    FieldError policy body title slot kind offset .missing (.inField title slot.name cause)
  | cutShort : FieldError policy body title slot kind offset
    .cutShort (.endOfData (.named title) offset)

/-- How a record inside another fails, by the way in which it is met. -/
inductive RecordError (policy : StringPolicy) (body : Body) (title : String) (slot : Slot)
    (name : String) (inner : Layout) (offset : Nat) : Encounter → Error → Prop
  | present {cause : Error}
      (walked : (walk policy body name true false inner (offset + slot.skip)).result =
        .error cause) :
    RecordError policy body title slot name inner offset .present (.inField title slot.name cause)
  | ignored {error : Error} (absent : inner.absent = .error error) :
    RecordError policy body title slot name inner offset .ignored error
  | missing {error : Error} (kept : slot.ignored = false)
      (walked : (walk policy body name false false inner offset).result = .error error) :
    RecordError policy body title slot name inner offset .missing error
  | missingIgnored {cause : Error} (ignored : slot.ignored = true)
    (absent : inner.absent = .error cause) :
    RecordError policy body title slot name inner offset .missing (.inField title slot.name cause)
  | cutShort : RecordError policy body title slot name inner offset
    .cutShort (.endOfData (.named title) offset)

theorem result_visit_eq_error_iff {slot : Slot} {kind : Kind} {met : Encounter} {offset : Nat}
    {error : Error} : (visit policy body title slot kind met offset).result = .error error ↔
      FieldError policy body title slot kind offset met error := by
  constructor
  · intro failed
    cases met with
    | present =>
      obtain ⟨cause, read, rfl⟩ := Lenient.result_inField_eq_error.mp failed
      exact .present read
    | ignored => exact .ignored (Lenient.result_map_eq_error.mp failed)
    | missing =>
      obtain ⟨cause, absent, rfl⟩ := Lenient.result_inField_eq_error.mp failed
      exact .missing (Lenient.result_map_eq_error.mp absent)
    | cutShort =>
      cases failed
      exact .cutShort
  · intro failed
    cases failed with
    | present read => exact Lenient.result_inField_eq_error.mpr ⟨_, read, rfl⟩
    | ignored absent => exact Lenient.result_map_eq_error.mpr absent
    | missing absent =>
        exact Lenient.result_inField_eq_error.mpr ⟨_, Lenient.result_map_eq_error.mpr absent, rfl⟩
    | cutShort => rfl

theorem result_visitRecord_eq_error_iff {slot : Slot} {name : String} {inner : Layout}
    {met : Encounter} {offset : Nat} {error : Error} :
    (visitRecord policy body title slot name inner met offset).result = .error error ↔
      RecordError policy body title slot name inner offset met error := by
  constructor
  · intro failed
    cases met with
    | present =>
      obtain ⟨cause, walked, rfl⟩ :=
        Lenient.result_inField_eq_error.mp (Lenient.result_map_eq_error.mp failed)
      exact .present walked
    | ignored => exact .ignored (Lenient.result_map_eq_error.mp failed)
    | missing =>
      rw [visitRecord_of_missing] at failed
      cases ignored : slot.ignored with
      | true =>
        rw [ignored, if_pos rfl] at failed
        obtain ⟨cause, absent, rfl⟩ := Lenient.result_inField_eq_error.mp failed
        exact .missingIgnored ignored (Lenient.result_map_eq_error.mp absent)
      | false =>
        rw [ignored, if_neg Bool.false_ne_true] at failed
        exact .missing ignored (Lenient.result_map_eq_error.mp failed)
    | cutShort =>
      cases failed
      exact .cutShort
  · intro failed
    cases failed with
    | present walked =>
      exact Lenient.result_map_eq_error.mpr (Lenient.result_inField_eq_error.mpr ⟨_, walked, rfl⟩)
    | ignored absent => exact Lenient.result_map_eq_error.mpr absent
    | missing kept walked =>
      rw [visitRecord_of_missing, kept, if_neg Bool.false_ne_true]
      exact Lenient.result_map_eq_error.mpr walked
    | missingIgnored ignored absent =>
      rw [visitRecord_of_missing, ignored, if_pos rfl]
      exact Lenient.result_inField_eq_error.mpr ⟨_, Lenient.result_map_eq_error.mpr absent, rfl⟩
    | cutShort => rfl

/-- The walk reads nothing more: no field is left, or the first one begins behind the end. -/
def BeginsBehind (size offset : Nat) : Layout → Prop
  | done => True
  | field slot _ _ => slot.isBehind size offset = true
  | record slot _ _ _ => slot.isBehind size offset = true

theorem walk_of_beginsBehind {layout : Layout} {offset : Nat}
    (behind : layout.BeginsBehind body.size offset) (complete : Bool) :
    walk policy body title complete false layout offset =
      walk policy body title complete true layout offset := by
  cases layout with
  | done => rfl
  | field slot kind rest =>
    have here : slot.isBehind body.size offset = true := behind
    rw [walk_field, walk_field, here, Bool.false_or, Bool.true_or]
  | record slot name inner rest =>
    have here : slot.isBehind body.size offset = true := behind
    rw [walk_record, walk_record, here, Bool.false_or, Bool.true_or]

/-! ### Complete readings -/

variable {slot : Slot} {rest : Layout} {offset last : Nat} {values : List Value}

/-- A complete reading of a plain field and those behind it. -/
theorem complete_field_iff {kind : Kind} :
    (walk policy body title true false (field slot kind rest) offset).result = .ok (values, last) ↔
      slot.isBehind body.size offset = false ∧ ∃ value next others,
        (visit policy body title slot kind (slot.encounter true false) offset).result =
          .ok (value, next) ∧
        (walk policy body title true false rest next).result = .ok (others, last) ∧
        values = value :: others := by
  rw [walk_field, Bool.false_or]
  cases behind : slot.isBehind body.size offset with
  | false => rw [Lenient.result_inFront_eq_ok]; simp
  | true => simp [Lenient.result_inFront_eq_ok, Slot.encounter, visit, Lenient.fail]

/-- A complete reading of a record and the fields behind it. -/
theorem complete_record_iff {name : String} {inner : Layout} :
    (walk policy body title true false (record slot name inner rest) offset).result =
        .ok (values, last) ↔
      slot.isBehind body.size offset = false ∧ ∃ value next others,
        (visitRecord policy body title slot name inner (slot.encounter true false) offset).result =
          .ok (value, next) ∧
        (walk policy body title true false rest next).result = .ok (others, last) ∧
        values = value :: others := by
  rw [walk_record, Bool.false_or]
  cases behind : slot.isBehind body.size offset with
  | false => rw [Lenient.result_inFront_eq_ok]; simp
  | true => simp [Lenient.result_inFront_eq_ok, Slot.encounter, visitRecord, Lenient.fail]

end Layout

end Dmi
