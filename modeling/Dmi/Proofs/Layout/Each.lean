/-
**What holds of every field of a record.**

A field gets its value in one of two ways: it is read, or it is worth its default. So what holds of
all values that can be read and of all defaults holds of every field of a record, at every depth and
wherever the walk stops. Main statements:

* `Layout.each_of_walk` — this principle;
* `Layout.fits_of_walk` — every value is of the kind of its field;
* `Layout.texts_of_walk` — every text is a string of the structure.
-/

import Dmi.Block
import Dmi.Proofs.Layout.Items
import Dmi.Proofs.Layout.Walk

namespace Dmi

namespace Layout

/-- There is one value for each field, and `holds` of the kind and the value of every field that is
no record. -/
def Each (holds : Kind → Value → Prop) : Layout → List Value → Prop
  | done, values => values = []
  | field _ kind rest, values =>
    ∃ value others, values = value :: others ∧ holds kind value ∧ rest.Each holds others
  | record _ _ inner rest, values =>
    ∃ fields others, values = .record fields :: others ∧ inner.Each holds fields ∧
      rest.Each holds others

theorem Each.mono {holds also : Kind → Value → Prop} {layout : Layout} {values : List Value}
    (each : layout.Each holds values) (implies : ∀ kind value, holds kind value → also kind value) :
    layout.Each also values := by
  induction layout generalizing values with
  | done => exact each
  | field slot kind rest ih =>
    obtain ⟨value, others, rfl, here, behind⟩ := each
    exact ⟨value, others, rfl, implies kind value here, ih behind⟩
  | record slot name inner rest ihInner ihRest =>
    obtain ⟨fields, others, rfl, here, behind⟩ := each
    exact ⟨fields, others, rfl, ihInner here, ihRest behind⟩

section Walks

variable {holds : Kind → Value → Prop} {policy : StringPolicy} {body : Body} {title : String}

theorem each_of_absent (defaults : ∀ kind default value, Kind.absent kind default = .ok value →
    holds kind value) {layout : Layout} {values : List Value} (found : layout.absent = .ok values) :
    layout.Each holds values := by
  induction layout generalizing values with
  | done =>
    cases found
    rfl
  | field slot kind rest ih =>
    obtain ⟨value, head, found⟩ := Error.bind_eq_ok_iff.mp found
    obtain ⟨others, tail, same⟩ := Error.bind_eq_ok_iff.mp found
    cases same
    exact ⟨value, others, rfl, defaults kind _ value head, ih tail⟩
  | record slot name inner rest ihInner ihRest =>
    obtain ⟨fields, head, found⟩ := Error.bind_eq_ok_iff.mp found
    obtain ⟨others, tail, same⟩ := Error.bind_eq_ok_iff.mp found
    cases same
    exact ⟨fields, others, rfl, ihInner head, ihRest tail⟩

/-- However a field is met, its value is read somewhere or is the default. -/
theorem read_or_absent_of_visit {slot : Slot} {kind : Kind} {met : Encounter} {offset next : Nat}
    {value : Value}
    (found : (visit policy body title slot kind met offset).result = .ok (value, next)) :
    (∃ start, (kind.read policy body title slot.name start).result = .ok (value, next)) ∨
      kind.absent slot.default = .ok value := by
  cases fieldValue_of_visit found with
  | present read => exact .inl ⟨_, read⟩
  | ignored absent => exact .inr absent
  | missing absent => exact .inr absent

/-- However a record is met, its fields are walked somewhere or are the defaults. -/
theorem walk_or_absent_of_visitRecord {slot : Slot} {name : String} {inner : Layout}
    {met : Encounter} {offset next : Nat} {value : Value}
    (found : (visitRecord policy body title slot name inner met offset).result =
      .ok (value, next)) :
    ∃ fields, value = .record fields ∧ (inner.absent = .ok fields ∨ ∃ complete start last,
      (walk policy body name complete false inner start).result = .ok (fields, last)) := by
  cases recordValue_of_visitRecord found with
  | present walked => exact ⟨_, rfl, .inr ⟨true, _, _, walked⟩⟩
  | ignored absent => exact ⟨_, rfl, .inl absent⟩
  | missing kept walked => exact ⟨_, rfl, .inr ⟨false, _, _, walked⟩⟩
  | missingIgnored ignored absent => exact ⟨_, rfl, .inl absent⟩

/-- **What holds of all values read and of all defaults holds of every field.** By induction on the
layout, for walks of every sort, because a record inside is walked in another way than the one it
stands in. -/
theorem each_of_walk
    (reads : ∀ kind record field start value next,
      (Kind.read kind policy body record field start).result = .ok (value, next) → holds kind value)
    (defaults : ∀ kind default value, Kind.absent kind default = .ok value → holds kind value)
    {complete stopped : Bool} {layout : Layout} {offset last : Nat} {values : List Value}
    (found : (walk policy body title complete stopped layout offset).result = .ok (values, last)) :
    layout.Each holds values := by
  induction layout generalizing title complete stopped offset last values with
  | done =>
    cases found
    rfl
  | field slot kind rest ih =>
    rw [walk_field] at found
    obtain ⟨value, next, others, head, tail, rfl⟩ := Lenient.result_inFront_eq_ok.mp found
    refine ⟨value, others, rfl, ?_, ih tail⟩
    rcases read_or_absent_of_visit head with ⟨start, read⟩ | absent
    · exact reads kind title slot.name start value next read
    · exact defaults kind slot.default value absent
  | record slot name inner rest ihInner ihRest =>
    rw [walk_record] at found
    obtain ⟨value, next, others, head, tail, rfl⟩ := Lenient.result_inFront_eq_ok.mp found
    obtain ⟨fields, rfl, inside⟩ := walk_or_absent_of_visitRecord head
    refine ⟨fields, others, rfl, ?_, ihRest tail⟩
    rcases inside with absent | ⟨_, _, _, inside⟩
    · exact each_of_absent defaults absent
    · exact ihInner inside

end Walks

end Layout

/-! ### Every value is of the kind of its field -/

/-- The shape of an item. -/
def ListKind.FitsItem : ListKind → Value → Prop
  | handles, item => ∃ handle : UInt16, item = .word handle
  | elements, item =>
      ∃ type least most : UInt8, item = .record [.byte type, .byte least, .byte most]
  | peers, item => ∃ (segment : UInt16) (bus function width : UInt8),
      item = .record [.word segment, .byte bus, .byte function, .byte width]

/-- The value is one of this kind. -/
def Kind.Fits : Kind → Value → Prop
  | number width, value => ∃ n : width.Number, value = .number width n
  | text, value => ∃ found, value = .text found
  | bytes count, value => ∃ block : Block count, value = .bytes block.val
  | list kind, value => ∃ items, value = .list items ∧ ∀ item ∈ items, kind.FitsItem item

theorem ListKind.fitsItem_of_read {kind : ListKind} {body : Body} {offset : Nat} {item : Value}
    (found : kind.readItem body offset = .ok item) : kind.FitsItem item := by
  cases kind with
  | handles =>
    obtain ⟨handle, _, same⟩ := Error.bind_eq_ok_iff.mp found
    cases same
    exact ⟨handle, rfl⟩
  | elements =>
    obtain ⟨bytes, read, same⟩ := Error.bind_eq_ok_iff.mp found
    cases same
    have length := Body.length_of_bytes read
    match bytes, length with
    | [type, least, most], _ => exact ⟨type, least, most, rfl⟩
  | peers =>
    obtain ⟨segment, _, found⟩ := Error.bind_eq_ok_iff.mp found
    obtain ⟨bus, _, found⟩ := Error.bind_eq_ok_iff.mp found
    obtain ⟨function, _, found⟩ := Error.bind_eq_ok_iff.mp found
    obtain ⟨width, _, same⟩ := Error.bind_eq_ok_iff.mp found
    cases same
    exact ⟨segment, bus, function, width, rfl⟩

theorem ListKind.fitsItems_of_read {kind : ListKind} {body : Body} {count offset : Nat}
    {items : List Value} (found : kind.readItems body count offset = .ok items) :
    ∀ item ∈ items, kind.FitsItem item := by
  induction count generalizing offset items with
  | zero =>
    cases found
    simp
  | succ count ih =>
    obtain ⟨first, head, found⟩ := Error.bind_eq_ok_iff.mp found
    obtain ⟨others, tail, same⟩ := Error.bind_eq_ok_iff.mp found
    cases same
    intro item member
    rcases List.mem_cons.mp member with rfl | member
    · exact fitsItem_of_read head
    · exact ih tail item member

namespace Kind

variable {kind : Kind} {policy : StringPolicy} {body : Body} {record field : String}
  {offset next : Nat} {value : Value}

theorem fits_of_read
    (found : (kind.read policy body record field offset).result = .ok (value, next)) :
    kind.Fits value := by
  cases kind with
  | number width =>
    obtain ⟨n, _, rfl, _⟩ := read_number_eq_ok_iff.mp found
    exact ⟨n, rfl⟩
  | text =>
    obtain ⟨text, _, rfl, _⟩ := read_text_eq_ok_iff.mp found
    exact ⟨text, rfl⟩
  | bytes count =>
    obtain ⟨bytes, read, rfl, _⟩ := read_bytes_eq_ok_iff.mp found
    exact ⟨⟨bytes, Body.length_of_bytes read⟩, rfl⟩
  | list kind =>
    obtain ⟨_, read, _⟩ := read_list_eq_ok_iff.mp found
    obtain ⟨_, items, _, rest, rfl, _⟩ := ListKind.read_eq_ok_iff.mp read
    exact ⟨items, rfl, ListKind.fitsItems_of_read rest⟩

theorem fits_of_absent {default : Option UInt64} (found : kind.absent default = .ok value) :
    kind.Fits value := by
  cases kind with
  | number width =>
    rw [absent] at found
    split at found
    · cases found
      exact ⟨_, rfl⟩
    · cases found
  | text =>
    cases found
    exact ⟨_, rfl⟩
  | bytes count =>
    rw [absent] at found
    split at found
    · cases found
    · cases found
      exact ⟨⟨List.replicate count 0, List.length_replicate⟩, rfl⟩
  | list kind =>
    cases found
    exact ⟨[], rfl, by simp⟩

/-- Where the bytes of a text come from. -/
theorem text_of_read {text : String}
    (found : (kind.read policy body record field offset).result = .ok (.text (.value text), next)) :
    ∃ string ∈ body.strings, text = Utf8.decode string := by
  cases kind with
  | number width =>
    obtain ⟨_, _, same, _⟩ := read_number_eq_ok_iff.mp found
    cases same
  | bytes count =>
    obtain ⟨_, _, same, _⟩ := read_bytes_eq_ok_iff.mp found
    cases same
  | list kind =>
    obtain ⟨_, read, _⟩ := read_list_eq_ok_iff.mp found
    obtain ⟨_, _, _, _, same, _⟩ := ListKind.read_eq_ok_iff.mp read
    cases same
  | text =>
    obtain ⟨other, read, same, _⟩ := read_text_eq_ok_iff.mp found
    cases same
    obtain ⟨index, _, string | ⟨_, _, _, same⟩⟩ := readText_eq_ok_iff.mp read
    · rw [Body.string] at string
      split at string
      · cases string
      · split at string
        · rename_i bytes member
          cases string
          exact ⟨bytes, List.mem_of_getElem? member, rfl⟩
        · cases string
    · cases same

theorem text_ne_absent {default : Option UInt64} {text : String} :
    kind.absent default ≠ .ok (.text (.value text)) := by
  intro found
  cases kind with
  | number width =>
    rw [absent] at found
    split at found <;> cases found
  | text => cases found
  | bytes count =>
    rw [absent] at found
    split at found <;> cases found
  | list kind => cases found

end Kind

namespace Layout

variable {policy : StringPolicy} {body : Body} {title : String} {complete stopped : Bool}
  {layout : Layout} {offset last : Nat} {values : List Value}

/-- **Every value that a walk gives is of the kind of its field.** -/
theorem fits_of_walk
    (found : (walk policy body title complete stopped layout offset).result = .ok (values, last)) :
    layout.Each Kind.Fits values :=
  each_of_walk (fun _ _ _ _ _ _ => Kind.fits_of_read) (fun _ _ _ => Kind.fits_of_absent) found

/-- **Every text that a walk gives is one of the strings**, as it can be read. -/
theorem texts_of_walk
    (found : (walk policy body title complete stopped layout offset).result = .ok (values, last)) :
    layout.Each (fun _ value => ∀ text, value = .text (.value text) →
      ∃ string ∈ body.strings, text = Utf8.decode string) values := by
  refine each_of_walk ?_ ?_ found
  · rintro kind record field start value next read text rfl
    exact Kind.text_of_read read
  · rintro kind default value absent text rfl
    exact absurd absent Kind.text_ne_absent

end Layout

end Dmi
