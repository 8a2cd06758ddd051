/-
**Layouts of plain fields.**

The records of the catalog have neither records inside them nor ignored fields. Over such a layout
the values that come back are the values written, each settled on its own, and settled values are
written like the others. Main statements:

* `settled_of_isPlain` — the values that come back;
* `encode_map_settled` — settled values have the same encoding;
* `exists_operations` — writing the values is a run of operations, whose texts are the texts among
  the values.
-/

import Dmi.Proofs.Body.Operations
import Dmi.Proofs.Layout.Each
import Dmi.Proofs.Layout.RoundTrip

namespace Dmi

open Draft (Operation after)

theorem Kind.write_settled (kind : Kind) (value : Value) :
    kind.write value.settled = kind.write value := by
  cases value with
  | text found =>
    cases found with
    | value text =>
      by_cases empty : text = ""
      · subst empty
        cases kind <;> rfl
      · have same : (Value.text (.value text)).settled = .text (.value text) := by
          rw [Value.settled, Text.settled, Text.ofString, if_neg empty]
        rw [same]
    | _ => rfl
  | _ => rfl

/-- Writing a field is one operation, which is a text exactly where the value is. -/
theorem Kind.exists_operation {kind : Kind} {value : Value} {body later : Body}
    (written : kind.write value body = .ok () later) :
    ∃ operation : Operation, operation.after body = later ∧
      ∀ text, .text text = operation ↔ .text text = value := by
  cases kind with
  | number width =>
    cases value with
    | number found n =>
      rw [write] at written
      split at written
      · cases written
        exact ⟨.number found n, rfl, fun text => by simp⟩
      · cases written
    | _ => cases written
  | text =>
    cases value with
    | text found =>
      refine ⟨.text found, ?_, fun text => by simp⟩
      have here : Draft.text found body = .ok () later := written
      rw [Operation.after, Operation.draft, here]
    | _ => cases written
  | bytes count =>
    cases value with
    | bytes found =>
      rw [write] at written
      split at written
      · cases written
        exact ⟨.bytes found, rfl, fun text => by simp⟩
      · cases written
    | _ => cases written
  | list kind =>
    obtain ⟨run, rfl, _⟩ := ListKind.write_eq_ok written
    refine ⟨.bytes run, rfl, fun text => ?_⟩
    cases value with
    | list items => simp
    | _ => cases written

namespace Layout

/-- No field is ignored, and none is a record. -/
def isPlain : Layout → Bool
  | done => true
  | field slot _ rest => !slot.ignored && rest.isPlain
  | record .. => false

variable {title : String} {layout : Layout} {values : List Value} {body later : Body}

theorem recordsEndInBytes_of_isPlain (plain : layout.isPlain) : layout.RecordsEndInBytes := by
  induction layout with
  | done => trivial
  | field slot kind rest ih =>
    rw [isPlain, Bool.and_eq_true] at plain
    exact ih plain.2
  | record slot name inner rest _ _ => cases plain

/-- Every place of a plain layout is a field. -/
theorem exists_slot_of_isPlain (plain : layout.isPlain) {index : Nat}
    (inside : index < layout.length) :
    ∃ slot kind, layout.slots[index]? = some (slot, some kind) := by
  induction layout generalizing index with
  | done => cases inside
  | field slot kind rest ih =>
    rw [isPlain, Bool.and_eq_true] at plain
    cases index with
    | zero => exact ⟨slot, kind, rfl⟩
    | succ index => exact ih plain.2 (Nat.lt_of_succ_lt_succ inside)
  | record slot name inner rest _ _ => cases plain

theorem settled_of_isPlain (plain : layout.isPlain) (length : layout.length = values.length) :
    layout.settled values = values.map Value.settled := by
  induction layout generalizing values with
  | done =>
    cases values with
    | nil => rfl
    | cons _ _ => cases length
  | field slot kind rest ih =>
    cases values with
    | nil => cases length
    | cons value values =>
      rw [isPlain, Bool.and_eq_true, Bool.not_eq_true'] at plain
      rw [settled, plain.1, ih plain.2 (Nat.succ.inj length)]
      rfl
  | record slot name inner rest _ _ => cases plain

theorem write_map_settled (plain : layout.isPlain) (values : List Value) :
    write title layout (values.map Value.settled) = write title layout values := by
  induction layout generalizing values with
  | done => cases values <;> rfl
  | field slot kind rest ih =>
    cases values with
    | nil => rfl
    | cons value values =>
      rw [isPlain, Bool.and_eq_true] at plain
      rw [List.map_cons, write, write, Kind.write_settled, ih plain.2]
  | record slot name inner rest _ _ => cases plain

/-- **Settled values are written as the values themselves are.** -/
theorem encode_map_settled (plain : layout.isPlain) (values : List Value) :
    layout.encode title (values.map Value.settled) = layout.encode title values := by
  rw [encode, encode, List.length_map, write_map_settled plain]

/-- What holds of every field holds of every value, since each is the one of a field. -/
theorem Each.exists_of_mem {holds : Kind → Value → Prop} (each : layout.Each holds values)
    (plain : layout.isPlain)
    {value : Value} (member : value ∈ values) : ∃ kind, holds kind value := by
  induction layout generalizing values with
  | done =>
    rw [show values = [] from each] at member
    cases member
  | field slot kind rest ih =>
    obtain ⟨first, others, rfl, here, behind⟩ := each
    rw [isPlain, Bool.and_eq_true] at plain
    rcases List.mem_cons.mp member with rfl | member
    · exact ⟨kind, here⟩
    · exact ih behind plain.2 member
  | record slot name inner rest _ _ => cases plain

/-- **Writing the fields of a record is a run of operations**, whose texts are the texts among the
values. By induction on the layout: each field is the zero bytes that it skips, and one
operation. -/
theorem exists_operations (plain : layout.isPlain) (length : layout.length = values.length)
    (written : write title layout values body = .ok () later) :
    ∃ operations, after operations body = later ∧
      ∀ text, .text text ∈ operations ↔ .text text ∈ values := by
  induction layout generalizing values body with
  | done =>
    obtain rfl : values = [] := List.eq_nil_of_length_eq_zero length.symm
    cases written
    exact ⟨[], rfl, fun text => by simp⟩
  | field slot kind rest ih =>
    cases values with
    | nil => cases length
    | cons value values =>
      rw [isPlain, Bool.and_eq_true, Bool.not_eq_true'] at plain
      obtain ⟨middle, head, tail⟩ := write_field_eq_ok written
      rcases head with ⟨ignored, _⟩ | ⟨_, head⟩
      · rw [plain.1] at ignored
        cases ignored
      · obtain ⟨operation, rfl, here⟩ := Kind.exists_operation head
        obtain ⟨operations, rfl, behind⟩ := ih plain.2 (Nat.succ.inj length) tail
        refine ⟨.zeros slot.skip :: operation :: operations, rfl, fun text => ?_⟩
        have skipped : Operation.text text ≠ .zeros slot.skip := by rintro ⟨⟩
        rw [List.mem_cons, List.mem_cons, List.mem_cons, or_iff_right skipped, here text,
          behind text]
  | record slot name inner rest _ _ => cases plain

end Layout

end Dmi
