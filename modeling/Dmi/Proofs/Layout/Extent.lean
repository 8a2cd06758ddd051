/-
**How many bytes the values of a record take.**

All fields have a size of their own but for the counted lists, and the size of a list comes from the
number of its items. So the values tell how many bytes their fields take, whether these are read or
written. Main statements:

* `Kind.extent_of_read` — what a field takes that is read;
* `Layout.size_of_write` — what a record takes that is written;
* `Layout.extent_defaults` — the defaults take the least number of bytes.
-/

import Dmi.Proofs.Layout.RoundTrip

namespace Dmi

namespace Kind

/-- The number of bytes that a value takes in a field. -/
def extent : Kind → Value → Nat
  | list kind, .list items => kind.openingSize + items.length * kind.itemSize
  | kind, _ => kind.leastSize

variable {kind : Kind} {value : Value} {body later : Body}

theorem extent_settled (kind : Kind) (value : Value) :
    kind.extent value.settled = kind.extent value := by
  cases value with
  | text found => cases kind <;> rfl
  | _ => rfl

/-- A field that is read ends behind the bytes of its value. -/
theorem extent_of_read {policy : StringPolicy} {record field : String} {offset next : Nat}
    (read : (kind.read policy body record field offset).result = .ok (value, next)) :
    next = offset + kind.extent value := by
  cases kind with
  | number width =>
    obtain ⟨_, _, rfl, same⟩ := read_number_eq_ok_iff.mp read
    exact same
  | text =>
    obtain ⟨_, _, rfl, same⟩ := read_text_eq_ok_iff.mp read
    exact same
  | bytes count =>
    obtain ⟨_, _, rfl, same⟩ := read_bytes_eq_ok_iff.mp read
    exact same
  | list kind =>
    obtain ⟨_, here, rfl⟩ := read_list_eq_ok_iff.mp read
    obtain ⟨count, items, _, rest, rfl, rfl⟩ := ListKind.read_eq_ok_iff.mp here
    rw [extent, ListKind.length_of_readItems rest]

/-- A field that is written takes the bytes of its value, since it is read back. -/
theorem size_of_write (written : kind.write value body = .ok () later) :
    later.size = body.size + kind.extent value := by
  obtain ⟨_, _, readBack⟩ := write_eq_ok written
  have read := readBack later (.refl later) .strict "" ""
  rw [← extent_settled]
  exact extent_of_read (congrArg Lenient.result read)

theorem extent_worth (kind : Kind) (default : Option UInt64) :
    kind.extent (kind.worth default) = kind.leastSize := by
  cases kind with
  | list kind =>
    show kind.openingSize + 0 * kind.itemSize = kind.openingSize
    rw [Nat.zero_mul, Nat.add_zero]
  | _ => rfl

end Kind

namespace Layout

/-- The number of bytes that the values of a record take, with the bytes that its fields skip. -/
def extent : Layout → List Value → Nat
  | field slot kind rest, value :: values =>
    (if slot.ignored then 0 else slot.skip + kind.extent value) + rest.extent values
  | record slot _ inner rest, .record fields :: values =>
    (if slot.ignored then 0 else slot.skip + inner.extent fields) + rest.extent values
  | record _ _ _ rest, _ :: values => rest.extent values
  | _, _ => 0

variable {layout : Layout} {title : String} {values : List Value} {body later : Body}

/-- **A record that is written takes the bytes of its values.** -/
theorem size_of_write (length : layout.length = values.length)
    (written : write title layout values body = .ok () later) :
    later.size = body.size + layout.extent values := by
  induction layout generalizing title values body later with
  | done =>
    cases values with
    | nil =>
      cases written
      rfl
    | cons _ _ => cases length
  | field slot kind rest ih =>
    cases values with
    | nil => cases length
    | cons value values =>
      obtain ⟨middle, head, tail⟩ := write_field_eq_ok written
      have behind := ih (Nat.succ.inj length) tail
      rw [extent]
      rcases head with ⟨ignored, rfl⟩ | ⟨present, head⟩
      · rw [if_pos ignored]
        omega
      · have here := Kind.size_of_write head
        rw [size_opening] at here
        rw [present, if_neg Bool.false_ne_true]
        omega
  | record slot name inner rest ihInner ihRest =>
    cases values with
    | nil => cases length
    | cons value values =>
      obtain ⟨middle, head, tail⟩ := write_record_eq_ok written
      have behind := ihRest (Nat.succ.inj length) tail
      rcases head with ⟨ignored, rfl⟩ | ⟨present, fields, rfl, count, head⟩
      · cases value with
        | record fields =>
          rw [extent, if_pos ignored]
          omega
        | _ => exact behind
      · have here := ihInner count head
        rw [size_opening] at here
        rw [extent, present, if_neg Bool.false_ne_true]
        omega

/-- **The defaults take the least number of bytes.** -/
theorem extent_defaults (layout : Layout) : layout.extent layout.defaults = layout.leastSize := by
  induction layout with
  | done => rfl
  | field slot kind rest ih => rw [defaults, extent, leastSize, Kind.extent_worth, ih]
  | record slot name inner rest ihInner ihRest => rw [defaults, extent, leastSize, ihInner, ihRest]

end Layout

end Dmi
