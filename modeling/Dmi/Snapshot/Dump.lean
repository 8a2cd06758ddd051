/-
**Dump files.**

A dump is one run of bytes that holds an entry point and its table: the entry point first, changed
to point at the table, then zero bytes up to a fixed offset, then the table.
-/

import Dmi.EntryPoint.Basic

namespace Dmi.Dump

/-- The offset of the table. -/
def tableOffset : Nat := 0x20

/-- The dump of the bytes of an entry point and of a table. -/
def build (entryBytes tableBytes : List UInt8) : Except Error (List UInt8) := do
  let entry ← EntryPoint.parse entryBytes
  let entry ← entry.setTableAddress (UInt64.ofNat tableOffset)
  return List.rightpad tableOffset 0 entry.bytes ++ tableBytes

/-- The bytes of the entry point and of the table of a dump. The table has the size that the entry
point says, or less if the dump ends before. -/
def split (image : List UInt8) : Except Error (List UInt8 × List UInt8) := do
  let entry ← EntryPoint.parse image
  let start := entry.tableAddress.toNat
  if start ≤ image.length then
    return (image.take entry.size, (image.drop start).take entry.tableSize)
  else throw (.endOfData .dumpTable image.length)

/-- Where the table of an image ends: where the entry point says, or with the image. -/
def tableEnd (image : List UInt8) (entry : EntryPoint) : Nat :=
  min (entry.tableAddress.toNat + entry.tableSize) image.length

/-- The dump of what a dump is taken apart into. -/
def rebuild (image : List UInt8) : Except Error (List UInt8) := do
  let (entryBytes, tableBytes) ← split image
  build entryBytes tableBytes

end Dmi.Dump
