/-
**Whether values that were read can be written.**

A reading gives values of the kinds of their fields, and lists that are not too long. Of such values
only the number of a string that is not there cannot be written, and this is just what the reading
has tolerated. The strings have numbers as long as there are fewer fields than numbers, since no
field adds more than one. What is left is the size. A record is written with all its fields, so that
it may take more bytes than it was read from; but a layout in which a list stands only at the end
keeps its size, or takes its least one. Main statements:

* `Kind.write_of_accepts` — one field;
* `Layout.write_of_accepts` — the fields of a record, written or refused at the first tolerated one;
* `Layout.Decoded.extent_le` — the size of a record whose only list is the last field.
-/

import Dmi.Proofs.Layout.Cut
import Dmi.Proofs.Layout.Extent
import Dmi.Proofs.Layout.Typed

namespace Dmi

/-! ### One field -/

/-- A text is written if the list has room for one more string. -/
theorem Draft.exists_text (text : String) {body : Body} (room : body.strings.length + 1 < 256) :
    ∃ later, Draft.text
      (.value text) body = .ok () later ∧ later.strings.length ≤ body.strings.length + 1 := by
  by_cases empty : text = ""
  · subst empty
    exact ⟨_, rfl, Nat.le_succ body.strings.length⟩
  · have listed := body.length_intern_le (Utf8.encode text)
    have member : Utf8.encode text ∈ (body.intern (Utf8.encode text)).strings :=
      Body.mem_strings_intern_iff.mpr (.inr rfl)
    have inside := List.idxOf_lt_length_iff.mpr member
    have place : (body.intern (Utf8.encode text)).strings.idxOf (Utf8.encode text) + 1 <
      256 := by omega
    rw [Draft.text, if_neg empty, Draft.string, if_pos place]
    exact ⟨_, rfl, listed⟩

/-- A draft goes on where the one in front of it succeeds. -/
theorem Draft.bind_of_ok {α β : Type} {first : Draft α} {next : α → Draft β} {body middle : Body}
    {found : α} (head : first body = .ok found middle) :
    (first >>= next) body = next found middle := by
  show EStateM.bind first next body = _
  rw [EStateM.bind, head]

/-- A draft fails as the one in front of it does. -/
theorem Draft.bind_of_error {α β : Type} {first : Draft α} {next : α → Draft β} {body middle : Body}
    {error : Error} (head : first body = .error error middle) :
    (first >>= next) body = .error error middle := by
  show EStateM.bind first next body = _
  rw [EStateM.bind, head]

namespace Kind

variable {kind : Kind} {value : Value} {body : Body}

/-- **A value that was read is written** behind the strings that are there, and adds at most one.
Only the number of a string that is not there is refused. -/
theorem write_of_accepts (accepts : kind.Accepts value) (room : body.strings.length + 1 < 256) :
    (∀ index, value ≠ .text (.badIndex index)) ∧ (∃ later, kind.write value body = .ok () later ∧
        later.strings.length ≤ body.strings.length + 1) ∨
      ∃ index, value = .text (.badIndex index) ∧
        kind.write value body = .error (.misuse .badIndexWritten) body := by
  obtain ⟨fits, lists⟩ := accepts
  cases kind with
  | number width =>
    obtain ⟨n, rfl⟩ := fits
    refine .inl ⟨by rintro _ ⟨⟩, ?_⟩
    rw [write, if_pos rfl]
    exact ⟨_, rfl, Nat.le_succ body.strings.length⟩
  | text =>
    obtain ⟨found, rfl⟩ := fits
    cases found with
    | badIndex index => exact .inr ⟨index, rfl, rfl⟩
    | notSpecified => exact .inl ⟨by rintro _ ⟨⟩, _, rfl, Nat.le_succ body.strings.length⟩
    | value text => exact .inl ⟨by rintro _ ⟨⟩, Draft.exists_text text room⟩
  | bytes count =>
    obtain ⟨⟨block, length⟩, rfl⟩ := fits
    refine .inl ⟨by rintro _ ⟨⟩, ?_⟩
    rw [write, if_pos length]
    exact ⟨_, rfl, Nat.le_succ body.strings.length⟩
  | list sort =>
    obtain ⟨items, rfl, _⟩ := fits
    obtain ⟨later, written⟩ := lists sort rfl body
    obtain ⟨run, rfl, _⟩ := ListKind.write_eq_ok written
    exact .inl ⟨by rintro _ ⟨⟩, _, written, Nat.le_succ body.strings.length⟩

end Kind

namespace Layout

variable {title : String} {slot : Slot} {kind : Kind} {layout rest : Layout} {value : Value}
  {values : List Value} {body middle : Body}

/-! ### The fields of a record -/

/-- Writing goes on behind a field that is written. -/
theorem write_field_of_ok (present : slot.ignored = false)
    (head : kind.write value (opening slot body) = .ok () middle) :
    write title (field slot kind rest) (value :: values) body = write title rest values middle := by
  rw [write, present]
  exact (Draft.bind_of_ok rfl).trans (Draft.bind_of_ok (Draft.inField_eq_ok_iff.mpr head))

/-- Writing ends at a field that is refused. -/
theorem write_field_of_error (present : slot.ignored = false) {error : Error}
    (head : kind.write value (opening slot body) = .error error middle) :
    write title (field slot kind rest)
      (value :: values) body = .error (.inField title slot.name error) middle := by
  have named : (Draft.inField title slot.name (kind.write value)) (opening slot body) =
      .error (.inField title slot.name error) middle := by
    rw [Draft.inField, head]
  rw [write, present]
  exact (Draft.bind_of_ok rfl).trans (Draft.bind_of_error named)

/-- **Values that were read are written**, or refused at the first field that the reading has
tolerated. By induction on the layout, with room for a string of each field that is left. -/
theorem write_of_accepts (plain : layout.isPlain) (accepts : layout.Each Kind.Accepts values)
    (room : body.strings.length + layout.length < 256) (count : Nat) :
    layout.misreadings count title values = [] ∧
      (∃ later, write title layout values body = .ok () later) ∨
      ∃ field index others later,
        layout.misreadings count title values = .inField title field
          (.badStringIndex index count) :: others ∧
          write title layout values body =
            .error (.inField title field (.misuse .badIndexWritten)) later := by
  induction layout generalizing values body with
  | done =>
    obtain rfl : values = [] := accepts
    exact .inl ⟨rfl, body, rfl⟩
  | field slot kind rest ih =>
    obtain ⟨value, others, rfl, here, behind⟩ := accepts
    rw [isPlain, Bool.and_eq_true, Bool.not_eq_true'] at plain
    rw [length] at room
    rw [misreadings]
    have more : (opening slot body).strings.length + 1 < 256 :=
      show body.strings.length + 1 < 256 by omega
    rcases Kind.write_of_accepts here more with ⟨answered, middle, head, few⟩ | ⟨index, rfl, head⟩
    · have few : middle.strings.length ≤ body.strings.length + 1 := few
      rw [Slot.misreading_eq_nil answered, write_field_of_ok plain.1 head]
      exact ih plain.2 behind (by omega)
    · exact .inr ⟨slot.name, index, _, _, rfl, write_field_of_error plain.1 head⟩
  | record slot name inner rest _ _ => cases plain

/-! ### The size of a record -/

/-- No field is a record, and none is a list except for the last one. -/
def listsLast : Layout → Bool
  | done => true
  | field _ kind rest => (kind.size?.isSome || rest == done) && rest.listsLast
  | record .. => false

/-- Only a list takes more than the least size of its kind. -/
theorem extent_of_sized (sized : kind.size?.isSome) (value : Value) :
    kind.extent value = kind.leastSize := by
  cases kind with
  | list kind => cases sized
  | _ => rfl

/-- **A record whose only list is its last field takes no more bytes than it was read from**, or the
least number of them. By induction on how the fields were met: if the section ends early, all fields
behind are worth their defaults. -/
theorem Decoded.extent_le {policy : StringPolicy} {offset : Nat} {offsets : List Nat}
    (decoded : layout.Decoded policy body title offset offsets values) (last : layout.listsLast) :
    offset + layout.extent values ≤ body.size ∨ layout.extent values = layout.leastSize := by
  induction decoded with
  | done inside => exact .inl inside
  | exhausted layout => exact .inr layout.extent_defaults
  | @field slot kind rest offset next offsets value values kept close forward spans behind ih =>
    rw [listsLast, Bool.and_eq_true, Bool.or_eq_true, beq_iff_eq] at last
    have read := Kind.extent_of_read spans.read
    rw [extent, leastSize, kept, if_neg Bool.false_ne_true, if_neg Bool.false_ne_true, close]
    rcases last with ⟨sized | rfl, last⟩
    · have size := extent_of_sized sized value
      rcases ih last with fits | least
      · exact .inl (by omega)
      · exact .inr (by omega)
    · obtain rfl : values = [] := List.eq_nil_of_length_eq_zero behind.length_values
      have nothing : (Layout.done).extent [] = 0 := rfl
      have inside := spans.inside
      exact .inl (by omega)

end Layout

end Dmi
