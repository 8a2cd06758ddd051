/-
**The bytes that a field needs.**

A field needs the bytes from where it begins to where the next one does, also if it is a counted
list, whose bytes tell how many there are. Main statement:

* `Kind.spans_read` — for every kind of field.
-/

import Dmi.Proofs.Body.Spans
import Dmi.Proofs.Layout.Items
import Dmi.Proofs.Layout.Walk

namespace Dmi

/-! ### The bytes of a counted list -/

namespace ListKind

variable {kind : ListKind} {body : Body} {offset : Nat}

theorem spans_readItem {item : Value} (read : kind.readItem body offset = .ok item) :
    body.Spans offset (offset + kind.itemSize) (kind.readItem · offset) item := by
  cases kind with
  | handles =>
    obtain ⟨handle, here, same⟩ := Error.bind_eq_ok_iff.mp read
    cases same
    exact (Body.spans_number here).map Value.word
  | elements =>
    obtain ⟨element, here, same⟩ := Error.bind_eq_ok_iff.mp read
    cases same
    exact (Body.spans_bytes here).map fun element => Value.record (element.map .byte)
  | peers =>
    obtain ⟨segment, first, read⟩ := Error.bind_eq_ok_iff.mp read
    obtain ⟨bus, second, read⟩ := Error.bind_eq_ok_iff.mp read
    obtain ⟨function, third, read⟩ := Error.bind_eq_ok_iff.mp read
    obtain ⟨width, fourth, same⟩ := Error.bind_eq_ok_iff.mp read
    cases same
    exact (Body.spans_number first).bind <| (Body.spans_byte second).bind <|
      (Body.spans_byte third).bind <| (Body.spans_byte fourth).map _

/-- **The items need the bytes of all of them**, so that a list that is cut inside an item fails
there. -/
theorem spans_readItems {count : Nat} {items : List Value} (inside : offset ≤ body.size)
    (read : kind.readItems body count offset = .ok items) :
    body.Spans offset (offset + count * kind.itemSize) (kind.readItems · count offset) items := by
  induction count generalizing offset items with
  | zero =>
    cases read
    rw [Nat.zero_mul, Nat.add_zero]
    exact .pure inside []
  | succ count ih =>
    obtain ⟨item, head, read⟩ := Error.bind_eq_ok_iff.mp read
    obtain ⟨others, tail, same⟩ := Error.bind_eq_ok_iff.mp read
    cases same
    have first := spans_readItem head
    have rest := ih first.inside tail
    rw [Nat.succ_mul, Nat.add_comm (count * kind.itemSize), ← Nat.add_assoc]
    exact first.bind (rest.map (item :: ·))

theorem spans_readCount {count : Nat} (read : kind.readCount body offset = .ok count) :
    body.Spans offset (offset + kind.openingSize) (kind.readCount · offset) count := by
  cases kind with
  | handles =>
    obtain ⟨first, here, same⟩ := Error.bind_eq_ok_iff.mp read
    cases same
    exact (Body.spans_byte here).map UInt8.toNat
  | peers =>
    obtain ⟨first, here, same⟩ := Error.bind_eq_ok_iff.mp read
    cases same
    exact (Body.spans_byte here).map UInt8.toNat
  | elements =>
    obtain ⟨first, here, read⟩ := Error.bind_eq_ok_iff.mp read
    obtain ⟨size, behind, read⟩ := Error.bind_eq_ok_iff.mp read
    -- The two bytes have been read, so that the check of the size has passed on any body.
    split at read
    · rename_i allowed
      cases read
      refine (Body.spans_byte here).bind ((Body.spans_byte behind).bind ?_)
      simp only [if_pos allowed]
      exact .pure (Body.spans_byte behind).inside first.toNat
    · cases read

/-- A list needs its count and its items. -/
theorem spans_read {value : Value} {consumed : Nat}
    (read : kind.read body offset = .ok (value, consumed)) :
    body.Spans offset (offset + consumed) (kind.read · offset) (value, consumed) := by
  obtain ⟨count, items, opening, rest, rfl, rfl⟩ := read_eq_ok_iff.mp read
  have front := spans_readCount opening
  rw [← Nat.add_assoc]
  exact front.bind ((spans_readItems front.inside rest).map _)

end ListKind

/-! ### The bytes of a field -/

theorem Lenient.result_ofExcept_bind {α β : Type} (result : Except Error α) (change : α → β) :
    (ofExcept result >>= fun found => pure (change found)).result =
      result >>= fun found => pure (change found) := by
  cases result <;> rfl

namespace Kind

variable {kind : Kind} {policy : StringPolicy} {body : Body} {record field : String}
  {offset next : Nat} {value : Value}

theorem spans_readText {found : Text}
    (read : (readText policy body record field offset).result = .ok found) :
    body.Spans offset (offset + 1)
      (fun other => (readText policy other record field offset).result) found := by
  unfold readText at read
  cases byte : body.byte offset with
  | error error =>
    rw [byte] at read
    cases read
  | ok index =>
    rw [byte] at read
    have number := Body.spans_byte byte
    -- Behind the number, the text depends on the strings only, and these are kept.
    refine { forward := number.forward, inside := number.inside, whole := ?whole, short := ?short }
    case whole =>
      intro other keeps
      unfold readText
      rw [number.whole other keeps, keeps.string]
      exact read
    case short =>
      intro size behind lost
      obtain ⟨start, width, failed⟩ := number.short size behind lost
      refine ⟨start, width, ?_⟩
      unfold readText
      rw [failed]
      rfl

/-- **The bytes that a field needs**: from where it begins to where the next one does. -/
theorem spans_read (read : (kind.read policy body record field offset).result = .ok (value, next)) :
    body.Spans offset next (fun other => (kind.read policy other record field offset).result)
      (value, next) := by
  cases kind with
  | number width =>
    obtain ⟨n, here, rfl, rfl⟩ := read_number_eq_ok_iff.mp read
    exact ((Body.spans_number here).map fun n => (Value.number width n, offset + width.size)).congr
      fun other =>
      Lenient.result_ofExcept_bind _ _
  | text =>
    obtain ⟨found, here, rfl, rfl⟩ := read_text_eq_ok_iff.mp read
    refine ((spans_readText here).map fun found => (Value.text found, offset + 1)).congr
      fun other => ?_
    show (Lenient.andThen _ _).result = _
    unfold Lenient.andThen
    cases (readText policy other record field offset).result <;> rfl
  | bytes count =>
    obtain ⟨found, here, rfl, rfl⟩ := read_bytes_eq_ok_iff.mp read
    exact ((Body.spans_bytes here).map fun found => (Value.bytes found, offset + count)).congr
      fun other =>
      Lenient.result_ofExcept_bind _ _
  | list kind =>
    obtain ⟨consumed, here, rfl⟩ := read_list_eq_ok_iff.mp read
    exact ((ListKind.spans_read here).map fun found => (found.1, offset + found.2)).congr
      fun other =>
      Lenient.result_ofExcept_bind (kind.read other offset) fun found => (found.1, offset + found.2)

end Kind

end Dmi
