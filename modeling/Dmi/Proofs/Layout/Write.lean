/-
**One step of writing.**

Writing goes through the fields in order and appends what each of them puts down. An ignored field
puts down nothing, and every other one its bytes behind the zero bytes that it skips. Main
statements:

* `Layout.write_field_eq_ok`, `Layout.write_record_eq_ok` — the step;
* `Layout.growsTo_of_write`, `Layout.leastSize_le_of_write` — a record only appends, and how much at
  least;
* `Layout.not_beginsBehind_of_write` — a record that ends in bytes begins in front of the end.
-/

import Dmi.Proofs.Layout.Written

namespace Dmi

theorem Draft.inField_eq_ok_iff {α : Type} {record field : String} {draft : Draft α} {found : α}
    {body later : Body} :
    draft.inField record field body = .ok found later ↔ draft body = .ok found later := by
  unfold Draft.inField
  cases draft body <;> simp

namespace Slot

/-- Where the walk stands in front of the bytes of a field, of which an ignored field has none. -/
def start (slot : Slot) (offset : Nat) : Nat :=
  if slot.ignored then offset else offset + slot.skip

theorem isBehind_eq (slot : Slot) (size offset : Nat) :
    slot.isBehind size offset = decide (size ≤ slot.start offset) := by
  unfold isBehind start
  cases slot.ignored with
  | true => simp
  | false =>
    by_cases behind : size ≤ offset
    · have further : size ≤ offset + slot.skip := Nat.le_add_right_of_le behind
      simp [behind, further]
    · simp [behind]

theorem le_start (slot : Slot) (offset : Nat) : offset ≤ slot.start offset := by
  unfold start
  split <;> omega

theorem start_of_ignored {slot : Slot} (ignored : slot.ignored = true) (offset : Nat) :
    slot.start offset = offset := by
  rw [start, if_pos ignored]

theorem start_of_present {slot : Slot} (present : slot.ignored = false) (offset : Nat) :
    slot.start offset = offset + slot.skip := by
  rw [start, present, if_neg Bool.false_ne_true]

end Slot

namespace Layout

/-- The last field is not ignored and has at least one byte. -/
def EndsInBytes : Layout → Prop
  | done => False
  | field slot kind rest =>
    rest.EndsInBytes ∨ rest = done ∧ slot.ignored = false ∧ 0 < kind.leastSize
  | record slot _ inner rest =>
    rest.EndsInBytes ∨ rest = done ∧ slot.ignored = false ∧ inner.EndsInBytes

/-- The least number of bytes of a record. -/
def leastSize : Layout → Nat
  | done => 0
  | field slot kind rest =>
    (if slot.ignored then 0 else slot.skip + kind.leastSize) + rest.leastSize
  | record slot _ inner rest =>
    (if slot.ignored then 0 else slot.skip + inner.leastSize) + rest.leastSize

variable {title name : String} {slot : Slot} {kind : Kind} {inner rest : Layout} {value : Value}
  {values : List Value} {body later : Body}

/-! ### The steps of writing -/

/-- Where the bytes of a field begin, in the body that is written. -/
def opening (slot : Slot) (body : Body) : Body :=
  body.append (List.replicate slot.skip 0)

/-- Writing a field takes the body to `middle`. An ignored field writes nothing. -/
def PutsField (slot : Slot) (kind : Kind) (value : Value) (body middle : Body) : Prop :=
  slot.ignored = true ∧ middle = body ∨
    slot.ignored = false ∧ kind.write value (opening slot body) = .ok () middle

/-- Writing a record inside takes the body to `middle`. -/
def PutsRecord (slot : Slot) (name : String) (inner : Layout) (value : Value) (body middle : Body) :
    Prop :=
  slot.ignored = true ∧ middle = body ∨
    slot.ignored = false ∧ ∃ fields, value = .record fields ∧ inner.length = fields.length ∧
      write name inner fields (opening slot body) = .ok () middle

theorem write_field_eq_ok
    (written : write title (field slot kind rest) (value :: values) body = .ok () later) :
    ∃ middle, PutsField slot kind value body middle ∧
      write title rest values middle = .ok () later := by
  rw [write] at written
  cases ignored : slot.ignored with
  | true =>
    rw [ignored] at written
    exact ⟨body, .inl ⟨ignored, rfl⟩, written⟩
  | false =>
    rw [ignored] at written
    obtain ⟨_, opened, skipped, written⟩ := Draft.bind_eq_ok_iff.mp written
    cases skipped
    obtain ⟨_, middle, head, tail⟩ := Draft.bind_eq_ok_iff.mp written
    exact ⟨middle, .inr ⟨ignored, Draft.inField_eq_ok_iff.mp head⟩, tail⟩

theorem write_record_eq_ok
    (written : write title (record slot name inner rest) (value :: values) body = .ok () later) :
    ∃ middle, PutsRecord slot name inner value body middle ∧
      write title rest values middle = .ok () later := by
  unfold write at written
  cases ignored : slot.ignored with
  | true =>
    rw [ignored] at written
    exact ⟨body, .inl ⟨ignored, rfl⟩, written⟩
  | false =>
    rw [ignored] at written
    obtain ⟨_, opened, skipped, written⟩ := Draft.bind_eq_ok_iff.mp written
    cases skipped
    obtain ⟨_, middle, head, tail⟩ := Draft.bind_eq_ok_iff.mp written
    have head := Draft.inField_eq_ok_iff.mp head
    cases value with
    | record fields =>
      have head : (if inner.length = fields.length then write name inner fields
          else Draft.fail (.misuse .wrongCount)) (opening slot body) = .ok () middle := head
      by_cases length : inner.length = fields.length
      · rw [if_pos length] at head
        exact ⟨middle, .inr ⟨ignored, fields, rfl, length, head⟩, tail⟩
      · rw [if_neg length] at head
        cases head
    | _ => cases head

/-! ### Writing goes forward -/

theorem size_opening (slot : Slot) (body : Body) :
    (opening slot body).size = body.size + slot.skip := by
  rw [opening, Body.size_append, List.length_replicate]

theorem growsTo_of_opening {middle : Body} (slot : Slot)
    (grown : (opening slot body).GrowsTo middle) :
    body.GrowsTo middle :=
  (Body.growsTo_append body _).trans grown

/-- Writing only appends. -/
theorem growsTo_of_write {layout : Layout} (length : layout.length = values.length)
    (written : write title layout values body = .ok () later) : body.GrowsTo later := by
  induction layout generalizing title values body later with
  | done =>
    cases values with
    | nil =>
      cases written
      exact .refl body
    | cons _ _ => cases length
  | field slot kind rest ih =>
    cases values with
    | nil => cases length
    | cons value values =>
      obtain ⟨middle, head, tail⟩ := write_field_eq_ok written
      have behind := ih (Nat.succ.inj length) tail
      rcases head with ⟨_, rfl⟩ | ⟨_, head⟩
      · exact behind
      · exact (growsTo_of_opening slot (Kind.write_eq_ok head).1).trans behind
  | record slot name inner rest ihInner ihRest =>
    cases values with
    | nil => cases length
    | cons value values =>
      obtain ⟨middle, head, tail⟩ := write_record_eq_ok written
      have behind := ihRest (Nat.succ.inj length) tail
      rcases head with ⟨_, rfl⟩ | ⟨_, fields, _, count, head⟩
      · exact behind
      · exact (growsTo_of_opening slot (ihInner count head)).trans behind

/-- A field is written from its first byte on. -/
theorem start_le_of_field {middle : Body} (head : PutsField slot kind value body middle) :
    slot.start body.size + (if slot.ignored then 0 else kind.leastSize) ≤ middle.size := by
  rcases head with ⟨ignored, rfl⟩ | ⟨present, head⟩
  · rw [Slot.start_of_ignored ignored, if_pos ignored]
    exact Nat.le_refl (middle.size + 0)
  · rw [Slot.start_of_present present, present, if_neg Bool.false_ne_true, ← size_opening]
    exact (Kind.write_eq_ok head).2.1

theorem start_le_of_record {middle : Body} (head : PutsRecord slot name inner value body middle) :
    slot.start body.size ≤ middle.size := by
  rcases head with ⟨ignored, rfl⟩ | ⟨present, fields, _, count, head⟩
  · exact Nat.le_of_eq (Slot.start_of_ignored ignored middle.size)
  · rw [Slot.start_of_present present, ← size_opening]
    exact (growsTo_of_write count head).size_le

theorem lt_of_not_beginsBehind {layout : Layout} {size offset : Nat}
    (inside : ¬layout.BeginsBehind size offset) : offset < size := by
  cases layout with
  | done => exact absurd trivial inside
  | field slot kind rest =>
    exact (Slot.isBehind_eq_false_iff.mp (Bool.eq_false_iff.mpr inside)).1
  | record slot name inner rest =>
    exact (Slot.isBehind_eq_false_iff.mp (Bool.eq_false_iff.mpr inside)).1

/-- **A record that ends in bytes begins in front of the end**, and so it writes at least one
byte. -/
theorem not_beginsBehind_of_write {layout : Layout} (ends : layout.EndsInBytes)
    (length : layout.length = values.length)
    (written : write title layout values body = .ok () later) :
    ¬layout.BeginsBehind later.size body.size := by
  induction layout generalizing title values body later with
  | done => exact ends.elim
  | field slot kind rest ih =>
    cases values with
    | nil => cases length
    | cons value values =>
      obtain ⟨middle, head, tail⟩ := write_field_eq_ok written
      have start := start_le_of_field head
      have reach : slot.start body.size < later.size := by
        rcases ends with ends | ⟨rfl, present, positive⟩
        · have behind := lt_of_not_beginsBehind (ih ends (Nat.succ.inj length) tail)
          omega
        · have behind := (growsTo_of_write (Nat.succ.inj length) tail).size_le
          rw [present, if_neg Bool.false_ne_true] at start
          omega
      rw [BeginsBehind, Slot.isBehind_eq, decide_eq_true_eq]
      exact Nat.not_le_of_lt reach
  | record slot name inner rest ihInner ihRest =>
    cases values with
    | nil => cases length
    | cons value values =>
      obtain ⟨middle, head, tail⟩ := write_record_eq_ok written
      have start := start_le_of_record head
      have reach : slot.start body.size < later.size := by
        rcases ends with ends | ⟨rfl, present, ends⟩
        · have behind := lt_of_not_beginsBehind (ihRest ends (Nat.succ.inj length) tail)
          omega
        · have behind := (growsTo_of_write (Nat.succ.inj length) tail).size_le
          rcases head with ⟨ignored, _⟩ | ⟨_, fields, _, count, head⟩
          · cases present.symm.trans ignored
          · have inside := lt_of_not_beginsBehind (ihInner ends count head)
            rw [size_opening] at inside
            rw [Slot.start_of_present present]
            omega
      rw [BeginsBehind, Slot.isBehind_eq, decide_eq_true_eq]
      exact Nat.not_le_of_lt reach

/-- A record is written only from one value for each field. -/
theorem write_of_encode {layout : Layout}
    (written : layout.encode title values body = .ok () later) :
    layout.length = values.length ∧ write title layout values body = .ok () later := by
  rw [encode] at written
  by_cases length : layout.length = values.length
  · rw [if_pos length] at written
    exact ⟨length, written⟩
  · rw [if_neg length] at written
    cases written

/-! ### What a record puts down -/

theorem leastSize_le_of_write (length : layout.length = values.length)
    (written : write title layout values body = .ok () later) :
    body.size + layout.leastSize ≤ later.size := by
  induction layout generalizing title values body later with
  | done => exact (growsTo_of_write length written).size_le
  | field slot kind rest ih =>
    cases values with
    | nil => cases length
    | cons value values =>
      obtain ⟨middle, head, tail⟩ := write_field_eq_ok written
      have start := start_le_of_field head
      have behind := ih (Nat.succ.inj length) tail
      rw [leastSize]
      cases ignored : slot.ignored with
      | true =>
        rw [Slot.start_of_ignored ignored, if_pos ignored] at start
        rw [if_pos rfl]
        omega
      | false =>
        rw [Slot.start_of_present ignored, ignored, if_neg Bool.false_ne_true] at start
        rw [if_neg Bool.false_ne_true]
        omega
  | record slot name inner rest ihInner ihRest =>
    cases values with
    | nil => cases length
    | cons value values =>
      obtain ⟨middle, head, tail⟩ := write_record_eq_ok written
      have behind := ihRest (Nat.succ.inj length) tail
      rw [leastSize]
      rcases head with ⟨ignored, rfl⟩ | ⟨present, fields, _, count, head⟩
      · rw [if_pos ignored]
        omega
      · have inside := ihInner count head
        rw [size_opening] at inside
        rw [present, if_neg Bool.false_ne_true]
        omega

end Layout

end Dmi
