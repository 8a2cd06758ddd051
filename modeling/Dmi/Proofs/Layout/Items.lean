/-
**What a counted list is read from.**

A list that is read has its count in front, as many items behind that, and as many bytes as both
take. Main statements:

* `ListKind.read_eq_ok_iff` — the parts of a list;
* `ListKind.exists_byte_of_readCount` — the count is the first byte, whatever the kind;
* `ListKind.length_of_readItems` — as many items are read as were asked for.
-/

import Dmi.Layout.Items

namespace Dmi.ListKind

variable {body : Body}

/-- The parts of a list that is read: its count, its items, and the number of its bytes. -/
theorem read_eq_ok_iff {kind : ListKind} {offset consumed : Nat} {value : Value} :
    kind.read body offset = .ok (value, consumed) ↔
      ∃ count items, kind.readCount body offset = .ok count ∧
        kind.readItems body count (offset + kind.openingSize) = .ok items ∧
        value = .list items ∧ consumed = kind.openingSize + count * kind.itemSize := by
  rw [read, Error.bind_eq_ok_iff]
  constructor
  · rintro ⟨count, opening, found⟩
    obtain ⟨items, rest, same⟩ := Error.bind_eq_ok_iff.mp found
    cases same
    exact ⟨count, items, opening, rest, rfl, rfl⟩
  · rintro ⟨count, items, opening, rest, rfl, rfl⟩
    exact ⟨count, opening, Error.bind_eq_ok_iff.mpr ⟨items, rest, rfl⟩⟩

theorem length_of_readItems {kind : ListKind} {count offset : Nat} {items : List Value}
    (found : kind.readItems body count offset = .ok items) : items.length = count := by
  induction count generalizing offset items with
  | zero =>
    cases found
    rfl
  | succ count ih =>
    rw [readItems] at found
    obtain ⟨item, _, found⟩ := Error.bind_eq_ok_iff.mp found
    obtain ⟨others, rest, found⟩ := Error.bind_eq_ok_iff.mp found
    cases found
    rw [List.length_cons, ih rest]

theorem exists_byte_of_readCount {kind : ListKind} {offset count : Nat}
    (found : kind.readCount body offset = .ok count) :
    ∃ first, body.byte offset = .ok first ∧ count = first.toNat := by
  cases kind with
  | handles =>
    obtain ⟨first, read, found⟩ := Error.bind_eq_ok_iff.mp found
    cases found
    exact ⟨first, read, rfl⟩
  | peers =>
    obtain ⟨first, read, found⟩ := Error.bind_eq_ok_iff.mp found
    cases found
    exact ⟨first, read, rfl⟩
  | elements =>
    obtain ⟨first, read, found⟩ := Error.bind_eq_ok_iff.mp found
    obtain ⟨size, _, found⟩ := Error.bind_eq_ok_iff.mp found
    split at found
    · cases found
      exact ⟨first, read, rfl⟩
    · cases found

end Dmi.ListKind
