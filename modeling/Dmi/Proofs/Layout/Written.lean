/-
**One field that is written is read back.**

Reading a field starts where writing it started, and ends where writing it ended, in every body that
grew from the one written. Nothing is tolerated on the way. Main statements:

* `ListKind.write_eq_ok` — a counted list, whose number of bytes is found again from its count;
* `Kind.write_eq_ok` — a field of any kind, whose value is found again as far as a structure can
  hold it.
-/

import Dmi.Layout.Encode
import Dmi.Proofs.Body.Growth
import Dmi.Proofs.Layout.Items
import Dmi.Proofs.Layout.Walk

namespace Dmi

/-- The value as it is read back. -/
def Value.settled : Value → Value
  | .text found => .text found.settled
  | value => value

/-! ### Counted lists -/

namespace ListKind

variable {body later : Body} {kind : ListKind}

theorem writeItem_eq_ok {item : Value} (written : kind.writeItem item body = .ok () later) :
    ∃ bytes, later = body.append bytes ∧ bytes.length = kind.itemSize ∧
      ∀ final, later.GrowsTo final → kind.readItem final body.size = .ok item := by
  unfold writeItem at written
  split at written
  · rename_i handle
    cases written
    refine ⟨_, rfl, LittleEndian.length_digits _ _, fun final grown => ?_⟩
    rw [readItem, Body.number_of_growsTo grown]
    rfl
  · rename_i type least most
    cases written
    refine ⟨_, rfl, rfl, fun final grown => ?_⟩
    have read : final.bytes body.size 3 = .ok [type, least, most] := Body.bytes_of_growsTo grown
    rw [readItem, read]
    rfl
  · rename_i segment bus function width
    obtain ⟨_, middle, first, second⟩ := Draft.bind_eq_ok_iff.mp written
    cases first
    cases second
    let opened := body.append (LittleEndian.digits 2 segment.toNat)
    have last : opened.append [bus, function, width] =
        ((opened.append [bus]).append [function]).append [width] := by
      rw [Body.append_append (opened.append [bus]), Body.append_append opened]
      rfl
    refine ⟨_, Body.append_append body _ _, by simp [itemSize, Width.size], fun final grown => ?_⟩
    have third : (((opened.append [bus]).append [function]).append [width]).GrowsTo final :=
      last ▸ grown
    have second := (Body.growsTo_append _ [width]).trans third
    have first := (Body.growsTo_append _ [function]).trans second
    have opening : opened.GrowsTo final := (Body.growsTo_append _ [bus]).trans first
    have size : opened.size = body.size + 2 := by simp [opened]
    have segmentRead : final.number .word body.size = .ok segment := Body.number_of_growsTo opening
    have busRead := Body.byte_of_growsTo first
    have functionRead := Body.byte_of_growsTo second
    have widthRead := Body.byte_of_growsTo third
    simp only [Body.size_append, size, List.length_singleton] at busRead functionRead widthRead
    rw [readItem, segmentRead, busRead, functionRead, widthRead]
    rfl
  · cases written

/-- **The items are read back**, each from where the one before it ends. -/
theorem writeItems_eq_ok {items : List Value}
    (written : kind.writeItems items body = .ok () later) :
    ∃ bytes, later = body.append bytes ∧ bytes.length = items.length * kind.itemSize ∧
      ∀ final, later.GrowsTo final → kind.readItems final items.length body.size = .ok items := by
  induction items generalizing body with
  | nil =>
    cases written
    exact ⟨[], by simp [Body.append], by simp, fun final _ => rfl⟩
  | cons item items ih =>
    obtain ⟨_, middle, first, rest⟩ := Draft.bind_eq_ok_iff.mp written
    obtain ⟨bytes, rfl, length, head⟩ := writeItem_eq_ok first
    obtain ⟨others, rfl, width, tail⟩ := ih rest
    refine ⟨bytes ++ others, Body.append_append _ _ _, ?_, fun final grown => ?_⟩
    · rw [List.length_append, length, width, List.length_cons, Nat.succ_mul, Nat.add_comm]
    · have itemRead := head final ((Body.growsTo_append _ others).trans grown)
      have itemsRead := tail final grown
      rw [Body.size_append, length] at itemsRead
      rw [List.length_cons, readItems, itemRead]
      simp only [bind, Except.bind, itemsRead]
      rfl

theorem writeCount_eq_ok {count : UInt8} (written : kind.writeCount count body = .ok () later) :
    ∃ bytes, later = body.append bytes ∧ bytes.length = kind.openingSize ∧
      ∀ final, later.GrowsTo final → kind.readCount final body.size = .ok count.toNat := by
  cases kind with
  | handles =>
    cases written
    refine ⟨[count], rfl, rfl, fun final grown => ?_⟩
    simp only [readCount, Body.byte_of_growsTo grown]
    rfl
  | peers =>
    cases written
    refine ⟨[count], rfl, rfl, fun final grown => ?_⟩
    simp only [readCount, Body.byte_of_growsTo grown]
    rfl
  | elements =>
    cases written
    refine ⟨_, rfl, rfl, fun final grown => ?_⟩
    have second : ((body.append [count]).append
        [if count = 0 then 0 else UInt8.ofNat elements.itemSize]).GrowsTo final := by
      rw [Body.append_append]
      exact grown
    have first := (Body.growsTo_append _ _).trans second
    have sizeRead := Body.byte_of_growsTo second
    rw [Body.size_append, List.length_singleton] at sizeRead
    rw [readCount, Body.byte_of_growsTo first, sizeRead]
    by_cases none_ : count = 0
    · simp [none_, bind, Except.bind, pure, Except.pure]
    · simp [none_, itemSize, bind, Except.bind, pure, Except.pure]

/-- **A list is read back with the number of its bytes.** -/
theorem write_eq_ok {value : Value} (written : kind.write value body = .ok () later) :
    ∃ bytes, later = body.append bytes ∧ kind.openingSize ≤ bytes.length ∧
      ∀ final, later.GrowsTo final → kind.read final body.size = .ok (value, bytes.length) := by
  unfold write at written
  split at written
  · rename_i items
    by_cases few : items.length < 256
    · rw [if_pos few] at written
      obtain ⟨_, middle, first, rest⟩ := Draft.bind_eq_ok_iff.mp written
      obtain ⟨opening, rfl, width, countRead⟩ := writeCount_eq_ok first
      obtain ⟨others, rfl, length, itemsRead⟩ := writeItems_eq_ok rest
      refine ⟨opening ++ others, Body.append_append _ _ _, by simp [width], fun final grown => ?_⟩
      have count : (UInt8.ofNat items.length).toNat = items.length := by
        rw [UInt8.toNat_ofNat', Nat.mod_eq_of_lt few]
      have head := countRead final ((Body.growsTo_append _ others).trans grown)
      have tail := itemsRead final grown
      rw [count] at head
      rw [Body.size_append, width] at tail
      rw [read_eq_ok_iff, List.length_append, width, length]
      exact ⟨items.length, items, head, tail, rfl, rfl⟩
    · rw [if_neg few] at written
      cases written
  · cases written

end ListKind

/-! ### Fields -/

namespace Kind

/-- The least number of bytes of a field. -/
def leastSize : Kind → Nat
  | number width => width.size
  | text => 1
  | bytes count => count
  | list kind => kind.openingSize

/-- **A field that is written is read back from every body that grows from there**, under either
policy. -/
theorem write_eq_ok {kind : Kind} {value : Value} {body later : Body}
    (written : kind.write value body = .ok () later) :
    body.GrowsTo later ∧ body.size + kind.leastSize ≤ later.size ∧
      ∀ final, later.GrowsTo final → ∀ policy record field,
        kind.read policy final record field body.size = pure (value.settled, later.size) := by
  cases kind with
  | number width =>
    cases value with
    | number found n =>
      rw [write] at written
      by_cases same : found = width
      · subst same
        rw [if_pos rfl] at written
        cases written
        refine ⟨Body.growsTo_append body _, ?_, fun final grown policy record field => ?_⟩
        · refine Nat.le_of_eq ?_
          show body.size + found.size = (body.append _).size
          rw [Body.size_append, LittleEndian.length_digits]
        · show _ = pure (_, (body.append _).size)
          rw [read, Body.number_of_growsTo grown, Body.size_append, LittleEndian.length_digits,
            Lenient.ofExcept_ok, pure_bind]
          rfl
      · rw [if_neg same] at written
        cases written
    | _ => cases written
  | text =>
    cases value with
    | text found =>
      obtain ⟨interned, index, grown, size, rfl, string⟩ := Draft.text_eq_ok written
      refine ⟨grown.trans (Body.growsTo_append _ _), ?_, fun final longer policy record field => ?_⟩
      · rw [Body.size_append, size]
        exact Nat.le_refl _
      · have byte := Body.byte_of_growsTo longer
        have found := string final ((Body.growsTo_append _ _).trans longer).strings
        rw [size] at byte
        rw [read, readText, byte, Body.size_append, size]
        simp only [found]
        cases policy <;> exact pure_bind _ _
    | _ => cases written
  | bytes count =>
    cases value with
    | bytes found =>
      rw [write] at written
      by_cases length : found.length = count
      · rw [if_pos length] at written
        cases written
        refine ⟨Body.growsTo_append body found, ?_, fun final grown policy record field => ?_⟩
        · refine Nat.le_of_eq ?_
          show body.size + count = (body.append found).size
          rw [Body.size_append, length]
        · have bytes : final.bytes body.size found.length = .ok found := Body.bytes_of_growsTo grown
          show _ = pure (_, (body.append found).size)
          rw [length] at bytes
          rw [read, bytes, Body.size_append, length, Lenient.ofExcept_ok, pure_bind]
          rfl
      · rw [if_neg length] at written
        cases written
    | _ => cases written
  | list kind =>
    obtain ⟨bytes, rfl, least, readBack⟩ := ListKind.write_eq_ok written
    refine ⟨Body.growsTo_append body bytes, ?_, fun final grown policy record field => ?_⟩
    · rw [Body.size_append]
      exact Nat.add_le_add_left least _
    · have settled : value.settled = value := by
        cases value with
        | list items => rfl
        | _ => cases written
      rw [read, readBack final grown, Body.size_append, settled, Lenient.ofExcept_ok, pure_bind]

end Kind

end Dmi
