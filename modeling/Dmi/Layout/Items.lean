/-
**Reading and writing counted lists.**

A list opens with the number of its items. A list of contained elements has the size of an item
behind that, which is zero if there are none, and three otherwise. The items follow, each of a fixed
size.
-/

import Dmi.Body.Write
import Dmi.Layout.ListKind
import Dmi.Value.Basic

namespace Dmi.ListKind

/-- The number of bytes of an item. -/
def itemSize : ListKind → Nat
  | handles => 2
  | elements => 3
  | peers => 5

/-- The number of bytes in front of the items. -/
def openingSize : ListKind → Nat
  | handles => 1
  | elements => 2
  | peers => 1

/-- Reads the item at `offset`. -/
def readItem (kind : ListKind) (body : Body) (offset : Nat) : Except Error Value :=
  match kind with
  | handles => do
    return .word (← body.number .word offset)
  | elements => do
    let bytes ← body.bytes offset 3
    return .record (bytes.map .byte)
  | peers => do
    let segment ← body.number .word offset
    let bus ← body.byte (offset + 2)
    let function ← body.byte (offset + 3)
    let width ← body.byte (offset + 4)
    return .record [.word segment, .byte bus, .byte function, .byte width]

/-- Reads `count` items from `offset` on. -/
def readItems (kind : ListKind) (body : Body) : (count offset : Nat) → Except Error (List Value)
  | 0, _ => .ok []
  | count + 1, offset => do
    let item ← kind.readItem body offset
    let items ← readItems kind body count (offset + kind.itemSize)
    return item :: items

/-- Reads the number of items, and refuses items of a size that the list cannot have. -/
def readCount (kind : ListKind) (body : Body) (offset : Nat) : Except Error Nat :=
  match kind with
  | elements => do
    let count ← body.byte offset
    let size ← body.byte (offset + 1)
    if (count = 0 ∧ size = 0) ∨ size.toNat = elements.itemSize then return count.toNat
    else throw (.invalidList elements.name "element size must be 3")
  | _ => do
    return (← body.byte offset).toNat

/-- Reads the list at `offset`, and gives it with the number of its bytes. -/
def read (kind : ListKind) (body : Body) (offset : Nat) : Except Error (Value × Nat) := do
  let count ← kind.readCount body offset
  let items ← kind.readItems body count (offset + kind.openingSize)
  return (.list items, kind.openingSize + count * kind.itemSize)

/-- The value of a list in a structure that ends before it. -/
def absent (_ : ListKind) : Value := .list []

/-- Writes an item. -/
def writeItem (kind : ListKind) (item : Value) : Draft Unit :=
  match kind, item with
  | handles, .number .word handle => Draft.number .word handle
  | elements, .record [.number .byte type, .number .byte least, .number .byte most] =>
    Draft.bytes [type, least, most]
  | peers, .record [.number .word segment, .number .byte bus, .number .byte function,
      .number .byte width] => do
    Draft.number .word segment
    Draft.bytes [bus, function, width]
  | _, _ => Draft.fail (.misuse (.malformedItem kind))

/-- Writes the bytes in front of the items. -/
def writeCount (kind : ListKind) (count : UInt8) : Draft Unit :=
  match kind with
  | elements => Draft.bytes [count, if count = 0 then 0 else UInt8.ofNat elements.itemSize]
  | _ => Draft.byte count

/-- Writes the items one after the other. -/
def writeItems (kind : ListKind) : List Value → Draft Unit
  | [] => pure ()
  | item :: items => do
    kind.writeItem item
    writeItems kind items

/-- Writes a list. -/
def write (kind : ListKind) (value : Value) : Draft Unit :=
  match value with
  | .list items =>
    if items.length < 256 then do
      kind.writeCount (UInt8.ofNat items.length)
      kind.writeItems items
    else Draft.fail (.invalidList kind.name ("more than 255 " ++ kind.items))
  | _ => Draft.fail (.misuse (.notAList kind))

end Dmi.ListKind
