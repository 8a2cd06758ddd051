/-
**Counted lists by 64-bit addresses.**

A list is read at offsets that are numbers of any size. A machine has words of 64 bits for them, in
which a sum need not fit. Here the reading is written down once more, with every address as such a
word and every sum checked. No sum ever fails, from whatever offset the reading starts, because an
address is only formed behind bytes that have been read. Main statements:

* `ListKind.readItemsAt_eq` — the items, one behind the other;
* `ListKind.readAt_eq` — a list is read as if its addresses had any size.
-/

import Dmi.Proofs.Layout.Spans

namespace Dmi

/-! ### Addresses -/

/-- A reading by addresses of 64 bits. It has no outcome at all where a sum does not fit. -/
abbrev Addressed := ExceptT Error Option

namespace Addressed

variable {α β : Type}

/-- A reading all of whose sums fit. -/
def exact (outcome : Except Error α) : Addressed α := ExceptT.mk (some outcome)

/-- A sum that does not fit. -/
def overflow : Addressed α := ExceptT.mk none

/-- The address `count` bytes behind another. -/
def plus (address : UInt64) (count : Nat) : Addressed UInt64 :=
  if address.toNat + count < UInt64.size then pure (address + UInt64.ofNat count) else overflow

/-- The number of bytes between two addresses. -/
def distance (start stop : UInt64) : Addressed Nat :=
  if start ≤ stop then pure (stop - start).toNat else overflow

/-- Readings that follow one another, of which the second needs to be exact only behind what the
first has read. -/
theorem exact_bind {outcome : Except Error α} {next : α → Addressed β} {rest : α → Except Error β}
    (same : ∀ found, outcome = .ok found → next found = exact (rest found)) :
    exact outcome >>= next = exact (outcome >>= rest) := by
  cases outcome with
  | ok found => exact same found rfl
  | error error => rfl

theorem toNat_add {address : UInt64} {count : Nat} (fits : address.toNat + count < UInt64.size) :
    (address + UInt64.ofNat count).toNat = address.toNat + count := by
  have small : count < UInt64.size := Nat.lt_of_le_of_lt (Nat.le_add_left count _) fits
  rw [UInt64.toNat_add, UInt64.toNat_ofNat_of_lt' small, Nat.mod_eq_of_lt fits]

theorem distance_add {address : UInt64} {count : Nat} (fits : address.toNat + count < UInt64.size) :
    distance address (address + UInt64.ofNat count) = pure count := by
  have behind : address ≤ address + UInt64.ofNat count := by
    rw [UInt64.le_iff_toNat_le, toNat_add fits]
    exact Nat.le_add_right _ _
  rw [distance, if_pos behind, UInt64.toNat_sub_of_le _ _ behind, toNat_add fits,
    Nat.add_sub_cancel_left]

end Addressed

namespace ListKind

open Addressed

/-! ### Reading by addresses -/

/-- Reads the item at an address. -/
def readItemAt (kind : ListKind) (body : Body) (address : UInt64) : Addressed Value :=
  match kind with
  | handles => do
    let handle ← exact (body.number .word address.toNat)
    return .word handle
  | elements => do
    let bytes ← exact (body.bytes address.toNat 3)
    return .record (bytes.map .byte)
  | peers => do
    let segment ← exact (body.number .word address.toNat)
    let second ← plus address 2
    let bus ← exact (body.byte second.toNat)
    let third ← plus address 3
    let function ← exact (body.byte third.toNat)
    let fourth ← plus address 4
    let width ← exact (body.byte fourth.toNat)
    return .record [.word segment, .byte bus, .byte function, .byte width]

/-- Reads `count` items, each of which moves the address on, and gives the address behind the
last. -/
def readItemsAt (kind : ListKind) (body : Body) :
    (count : Nat) → (address : UInt64) → Addressed (List Value × UInt64)
  | 0, address => return ([], address)
  | count + 1, address => do
    let item ← kind.readItemAt body address
    let next ← plus address kind.itemSize
    let (items, last) ← readItemsAt kind body count next
    return (item :: items, last)

/-- Reads `count` handles from the one at `index` on, each at its own distance from the offset of
the list. -/
def readHandlesAt (body : Body) (offset : UInt64) : (count index : Nat) → Addressed (List Value)
  | 0, _ => return []
  | count + 1, index => do
    let first ← plus offset 1
    let address ← plus first (2 * index)
    let handle ← handles.readItemAt body address
    let others ← readHandlesAt body offset count (index + 1)
    return handle :: others

/-- Reads the list at an address, and gives it with the number of its bytes. -/
def readAt (kind : ListKind) (body : Body) (offset : UInt64) : Addressed (Value × Nat) :=
  match kind with
  | handles => do
    let count ← exact (body.byte offset.toNat)
    let items ← readHandlesAt body offset count.toNat 0
    return (.list items, 1 + 2 * count.toNat)
  | elements => do
    let count ← exact (body.byte offset.toNat)
    let second ← plus offset 1
    let size ← exact (body.byte second.toNat)
    if count = 0 ∧ size = 0 then
      return (.list [], 2)
    else if size ≠ 3 then
      throw (.invalidList elements.name "element size must be 3")
    else
      let first ← plus offset 2
      let (items, last) ← elements.readItemsAt body count.toNat first
      let consumed ← distance offset last
      return (.list items, consumed)
  | peers => do
    let count ← exact (body.byte offset.toNat)
    let first ← plus offset 1
    let (items, last) ← peers.readItemsAt body count.toNat first
    let consumed ← distance offset last
    return (.list items, consumed)

variable {kind : ListKind} {body : Body} {offset address : UInt64}

/-! ### No sum fails -/

section Sums

variable (room : body.size < UInt64.size)
include room

/-- An address in the section, or the one at its end. -/
theorem plus_of_le (count : Nat) (inside : address.toNat + count ≤ body.size) :
    plus address count = pure (address + UInt64.ofNat count) ∧
      (address + UInt64.ofNat count).toNat = address.toNat + count :=
  have fits := Nat.lt_of_le_of_lt inside room
  ⟨if_pos fits, toNat_add fits⟩

theorem readItemAt_eq :
    kind.readItemAt body address = exact (kind.readItem body address.toNat) := by
  cases kind with
  | handles => exact exact_bind fun handle _ => rfl
  | elements => exact exact_bind fun bytes _ => rfl
  | peers =>
    refine exact_bind fun segment first => ?_
    obtain ⟨sum, place⟩ := plus_of_le room 2 (Body.spans_number first).inside
    rw [sum, pure_bind, place]
    refine exact_bind fun bus second => ?_
    obtain ⟨sum, place⟩ := plus_of_le room 3 (Body.spans_byte second).inside
    rw [sum, pure_bind, place]
    refine exact_bind fun function third => ?_
    obtain ⟨sum, place⟩ := plus_of_le room 4 (Body.spans_byte third).inside
    rw [sum, pure_bind, place]
    exact exact_bind fun width _ => rfl

/-- **The items are read as if their addresses had any size**, and the last address is the one
behind them. By induction on their number: behind an item that has been read, the address is still
in the section or at its end. -/
theorem readItemsAt_eq (count : Nat) (address : UInt64) : kind.readItemsAt body count address =
    exact (kind.readItems body count address.toNat >>= fun items =>
      pure (items, address + UInt64.ofNat (count * kind.itemSize))) := by
  induction count generalizing address with
  | zero =>
    rw [Nat.zero_mul, show UInt64.ofNat 0 = 0 from rfl, UInt64.add_zero]
    rfl
  | succ count ih =>
    rw [readItemsAt, readItems, readItemAt_eq room, bind_assoc]
    refine exact_bind fun item head => ?_
    obtain ⟨sum, place⟩ := plus_of_le room kind.itemSize (spans_readItem head).inside
    have last : address + UInt64.ofNat kind.itemSize + UInt64.ofNat (count * kind.itemSize) =
        address + UInt64.ofNat ((count + 1) * kind.itemSize) := by
      rw [UInt64.add_assoc, ← UInt64.ofNat_add, Nat.succ_mul, Nat.add_comm kind.itemSize]
    rw [sum, pure_bind, ih, place, last, bind_assoc]
    cases kind.readItems body count (address.toNat + kind.itemSize) <;> rfl

/-- Handles are read alike, although each has its address from the offset of the list. -/
theorem readHandlesAt_eq (count index : Nat) (inside : offset.toNat + 1 + 2 * index ≤ body.size) :
    readHandlesAt body offset count index = exact
      (handles.readItems body count (offset.toNat + 1 + 2 * index)) := by
  induction count generalizing index with
  | zero => rfl
  | succ count ih =>
    obtain ⟨first, behind⟩ := plus_of_le room 1 (Nat.le_trans (Nat.le_add_right _ _) inside)
    rw [← behind] at inside
    obtain ⟨sum, place⟩ := plus_of_le room (2 * index) inside
    rw [readHandlesAt, readItems, first, pure_bind, sum, pure_bind, readItemAt_eq room, place,
      behind]
    refine exact_bind fun handle head => ?_
    rw [ih (index + 1) (spans_readItem head).inside]
    exact exact_bind fun others _ => rfl

/-- What is behind the opening of a list, up to the number of its bytes, which is told by the
addresses. -/
theorem readBehind_eq (count opening : Nat) (inside : offset.toNat + opening ≤ body.size) :
    (do
      let first ← plus offset opening
      let (items, last) ← kind.readItemsAt body count first
      let consumed ← distance offset last
      return (Value.list items, consumed)) =
    exact (do
      let items ← kind.readItems body count (offset.toNat + opening)
      return (.list items, opening + count * kind.itemSize)) := by
  obtain ⟨sum, place⟩ := plus_of_le room opening inside
  rw [sum, pure_bind, readItemsAt_eq room, place]
  cases found : kind.readItems body count (offset.toNat + opening) with
  | error error => rfl
  | ok items =>
    have reach := (spans_readItems inside found).inside
    have last : offset + UInt64.ofNat opening + UInt64.ofNat (count * kind.itemSize) =
        offset + UInt64.ofNat (opening + count * kind.itemSize) := by
      rw [UInt64.add_assoc, ← UInt64.ofNat_add]
    show (distance offset (offset + _ + _) >>= fun consumed => pure (Value.list items, consumed)) =
      _
    rw [last, distance_add (Nat.lt_of_le_of_lt (Nat.add_assoc _ _ _ ▸ reach) room)]
    rfl

/-- **A list is read as if its addresses had any size**, from whatever offset. -/
theorem readAt_eq (kind : ListKind) (offset : UInt64) :
    kind.readAt body offset = exact (kind.read body offset.toNat) := by
  cases kind with
  | handles =>
    show exact (body.byte offset.toNat) >>= _ =
      exact ((body.byte offset.toNat >>= fun first => pure first.toNat) >>= _)
    rw [bind_assoc]
    refine exact_bind fun count first => ?_
    rw [pure_bind, readHandlesAt_eq room _ 0 (Body.spans_byte first).inside]
    refine exact_bind fun items _ => ?_
    rw [Nat.mul_comm]
    rfl
  | peers =>
    show exact (body.byte offset.toNat) >>= _ =
      exact ((body.byte offset.toNat >>= fun first => pure first.toNat) >>= _)
    rw [bind_assoc]
    refine exact_bind fun count first => ?_
    rw [pure_bind]
    exact readBehind_eq room count.toNat 1 (Body.spans_byte first).inside
  | elements =>
    show exact (body.byte offset.toNat) >>= _ = exact ((body.byte offset.toNat >>= _) >>= _)
    rw [bind_assoc]
    refine exact_bind fun count first => ?_
    obtain ⟨sum, place⟩ := plus_of_le room 1 (Body.spans_byte first).inside
    rw [sum, pure_bind, place, bind_assoc]
    refine exact_bind fun size second => ?_
    by_cases none_ : count = 0 ∧ size = 0
    · rw [if_pos none_, if_pos (.inl none_), none_.1]
      rfl
    · rw [if_neg none_]
      by_cases three : size = 3
      · subst three
        rw [if_neg (not_not_intro rfl), if_pos (.inr rfl)]
        exact readBehind_eq room count.toNat 2 (Body.spans_byte second).inside
      · have refused : ¬((count = 0 ∧ size = 0) ∨ size.toNat = elements.itemSize) :=
          not_or.mpr ⟨none_, fun same => three (UInt8.toNat_inj.mp same)⟩
        rw [if_pos three, if_neg refused]
        rfl

end Sums

end ListKind

end Dmi
