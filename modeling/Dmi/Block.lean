/-
**Blocks of bytes.**

A block is a run of bytes of a length that its type fixes.
-/

namespace Dmi

/-- `count` bytes. -/
abbrev Block (count : Nat) := { bytes : List UInt8 // bytes.length = count }

namespace Block

/-- The first `count` bytes, with zero bytes in place of missing ones. -/
def ofList (count : Nat) (bytes : List UInt8) : Block count :=
  ⟨(bytes ++ List.replicate count 0).take count, by simp⟩

/-- The bytes, if there are `count` of them. -/
def ofList? (count : Nat) (bytes : List UInt8) : Option (Block count) :=
  if length : bytes.length = count then some ⟨bytes, length⟩ else none

theorem ofList?_val {count : Nat} (block : Block count) : ofList? count block.val = some block := by
  simp [ofList?, block.property]

end Block

end Dmi
