/-
**Where the fields of a structure stand.**

If all fields in front of one have a size of their own, then it stands at the sum of these sizes. So
its offset is a number that does not depend on the section, and what is read there is what the
section has there, as long as it reaches so far. Main statements:

* `Layout.Decoded.exists_read_of_sized` — a field is read at its own place;
* `Layout.Decoded.run_of_sized` — its value has the bytes that stand there, or those of the default.
-/

import Dmi.Proofs.Layout.Verbatim

namespace Dmi

/-- The bytes of a value that is a number or a run of bytes. -/
def Value.run? : Value → Option (List UInt8)
  | number width n => some (LittleEndian.digits width.size (Width.toNat n))
  | bytes run => some run
  | _ => none

namespace Kind

variable {kind : Kind} {policy : StringPolicy} {body : Body} {record field : String}
  {offset next : Nat} {value : Value} {run : List UInt8}

/-- A field whose kind fixes its size ends behind as many bytes. -/
theorem next_of_sized (sized : kind.size?.isSome)
    (read : (kind.read policy body record field offset).result = .ok (value, next)) :
    next = offset + kind.leastSize := by
  rw [extent_of_read read]
  cases kind with
  | list kind => cases sized
  | _ => rfl

/-- A number or a run of bytes is read from its bytes. -/
theorem bytes_of_read
    (read : (kind.read policy body record field offset).result = .ok (value, next))
    (some_ : value.run? = some run) : body.bytes offset kind.leastSize = .ok run := by
  cases kind with
  | number width =>
    obtain ⟨n, here, rfl, _⟩ := read_number_eq_ok_iff.mp read
    cases some_
    exact Body.bytes_of_number here
  | text =>
    obtain ⟨_, _, rfl, _⟩ := read_text_eq_ok_iff.mp read
    cases some_
  | bytes count =>
    obtain ⟨found, here, rfl, _⟩ := read_bytes_eq_ok_iff.mp read
    cases some_
    exact here
  | list kind =>
    obtain ⟨_, here, _⟩ := read_list_eq_ok_iff.mp read
    obtain ⟨_, _, _, _, rfl, _⟩ := ListKind.read_eq_ok_iff.mp here
    cases some_

/-- The bytes of a default are those that it puts down. -/
theorem run_worth {default : Option UInt64} (fits : kind.DefaultFits default)
    (some_ : (kind.worth default).run? = some run) : run = kind.defaultBytes default := by
  cases kind with
  | number width =>
    have small : (default.getD 0).toNat < LittleEndian.limit width.size := fits
    cases some_
    rw [Width.toNat_number, Nat.mod_eq_of_lt small]
    rfl
  | bytes count =>
    cases some_
    rfl
  | _ => cases some_

end Kind

namespace Layout

/-- Every field has a size of its own. -/
def isSized : Layout → Bool
  | done => true
  | field _ kind rest => kind.size?.isSome && rest.isSized
  | record .. => false

variable {policy : StringPolicy} {body : Body} {title : String} {layout : Layout} {slot : Slot}
  {kind : Kind} {offset index : Nat} {offsets : List Nat} {values : List Value} {value : Value}
  {run : List UInt8}

theorem getElem?_defaults (here : layout.slots[index]? = some (slot, some kind)) :
    layout.defaults[index]? = some (kind.worth slot.default) := by
  induction layout generalizing index with
  | done => cases here
  | field first sort rest ih =>
    cases index with
    | zero =>
      cases here
      rfl
    | succ index => exact ih here
  | record first name inner rest _ ih =>
    cases index with
    | zero => cases here
    | succ index => exact ih here

theorem defaultFits_of_slot (fit : layout.DefaultsFit)
    (here : layout.slots[index]? = some (slot, some kind)) :
    kind.DefaultFits slot.default := by
  induction layout generalizing index with
  | done => cases here
  | field first sort rest ih =>
    cases index with
    | zero =>
      cases here
      exact fit.1
    | succ index => exact ih fit.2 here
  | record first name inner rest _ ih =>
    cases index with
    | zero => cases here
    | succ index => exact ih fit.2 here

namespace Decoded

/-- **A field is read at its own place**, behind the sizes of the fields in front of it, if the
section reaches so far. -/
theorem exists_read_of_sized (decoded : layout.Decoded policy body title offset offsets values)
    (sized : (layout.take index).isSized) (here : layout.slots[index]? = some (slot, some kind))
    (reach : offset + (layout.take index).leastSize < body.size) :
    ∃ value next, values[index]? = some value ∧
      (kind.read policy body title slot.name (offset + (layout.take index).leastSize)).result =
        .ok (value, next) := by
  induction decoded generalizing index with
  | done inside => cases here
  | exhausted layout =>
      exact absurd (Nat.lt_of_le_of_lt (Nat.le_add_right _ _) reach) (Nat.lt_irrefl _)
  | @field first sort rest offset next offsets value values kept close forward spans behind ih =>
    cases index with
    | zero =>
      cases here
      exact ⟨value, next, rfl, spans.read⟩
    | succ index =>
      rw [Layout.take, isSized, Bool.and_eq_true] at sized
      have size : offset + ((Layout.field first sort rest).take (index + 1)).leastSize =
          next + (rest.take index).leastSize := by
        rw [Kind.next_of_sized sized.1 spans.read, Layout.take, leastSize, kept,
          if_neg Bool.false_ne_true, close, Nat.zero_add, Nat.add_assoc]
      rw [size] at reach ⊢
      exact ih sized.2 here reach

end Decoded

/-- A field of a dense layout has bytes, and they stand behind the fields in front of it. -/
theorem leastSize_take_succ (dense : layout.Dense)
    (here : layout.slots[index]? = some (slot, some kind)) :
    0 < kind.leastSize ∧
      (layout.take (index + 1)).leastSize = (layout.take index).leastSize + kind.leastSize := by
  induction layout generalizing index with
  | done => cases here
  | field first sort rest ih =>
    obtain ⟨kept, close, occupied, dense⟩ := dense
    have size (count : Nat) :
        ((field first sort rest).take (count + 1)).leastSize =
          sort.leastSize + (rest.take count).leastSize := by
      rw [take, leastSize, kept, if_neg Bool.false_ne_true, close, Nat.zero_add]
    cases index with
    | zero =>
      cases here
      refine ⟨Kind.leastSize_pos occupied, ?_⟩
      rw [size, take, take, leastSize, Nat.zero_add]
      rfl
    | succ index =>
      obtain ⟨positive, behind⟩ := ih dense here
      refine ⟨positive, ?_⟩
      rw [size, size, behind, Nat.add_assoc]
  | record first name inner rest _ _ => cases dense

/-- **The value of a field has the bytes that stand in its place**, if the section reaches so far,
and otherwise those of the default. -/
theorem Decoded.run_of_sized (decoded : layout.Decoded policy body title offset offsets values)
    (dense : layout.Dense) (fit : layout.DefaultsFit) (sized : (layout.take index).isSized)
    (here : layout.slots[index]? = some (slot, some kind)) (given : values[index]? = some value)
    (some_ : value.run? = some run) :
    (offset + (layout.take index).leastSize + kind.leastSize ≤ body.size →
      body.bytes (offset + (layout.take index).leastSize) kind.leastSize = .ok run) ∧
    (body.size < offset + (layout.take index).leastSize + kind.leastSize →
      run = kind.defaultBytes slot.default) := by
  obtain ⟨positive, behind⟩ := leastSize_take_succ dense here
  constructor
  · intro room
    obtain ⟨found, next, there, read⟩ := decoded.exists_read_of_sized sized here (by omega)
    rw [given] at there
    cases there
    exact Kind.bytes_of_read read some_
  · intro short
    rw [Nat.add_assoc, ← behind] at short
    rw [decoded.getElem?_of_short short, getElem?_defaults here] at given
    cases given
    exact Kind.run_worth (defaultFits_of_slot fit here) some_

end Layout

end Dmi
