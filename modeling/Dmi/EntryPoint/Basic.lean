/-
**Entry points.**

The entry point says where the structure table is. Its first bytes choose between the two variants.
-/

import Dmi.EntryPoint.Bits32
import Dmi.EntryPoint.Bits64

namespace Dmi

/-- The version of the specification that an entry point announces. -/
structure Version where
  major : UInt8
  minor : UInt8
  /-- Zero where the entry point has none. -/
  revision : UInt8
  deriving DecidableEq, Repr

namespace Version

/-- The text of a version. -/
def render (version : Version) : String :=
  version.major.toNat.repr ++ "." ++ version.minor.toNat.repr ++ "." ++
    version.revision.toNat.repr

/-- The place of a version in the order of versions. -/
def rank (version : Version) : Nat :=
  (version.major.toNat * 256 + version.minor.toNat) * 256 + version.revision.toNat

/-- Versions in ascending order. -/
def sort (versions : List Version) : List Version :=
  versions.mergeSort fun first second => first.rank ≤ second.rank

end Version

/-- An entry point of either variant. -/
inductive EntryPoint where
  | bits32 (entry : Entry32)
  | bits64 (entry : Entry64)
  deriving DecidableEq, Repr

namespace EntryPoint

/-- The number of bytes that tell the variants apart. -/
def anchorSize : Nat := 5

/-- The entry point that some bytes begin with. -/
def parse (bytes : List UInt8) : Except Error EntryPoint :=
  if bytes.length < anchorSize then .error (.endOfData .anchor bytes.length)
  else if bytes.take 4 = Entry32.anchor then (Entry32.parse bytes).map bits32
  else if bytes.take 5 = Entry64.anchor then (Entry64.parse bytes).map bits64
  else .error (.unknownAnchor (bytes.take 5))

/-- The number of bytes. -/
def size : EntryPoint → Nat
  | bits32 _ => Entry32.size
  | bits64 _ => Entry64.size

/-- The length byte. -/
def length : EntryPoint → UInt8
  | bits32 entry => entry.length
  | bits64 entry => entry.length

/-- The checksums that are held, in the order of their places. -/
def checksums : EntryPoint → List UInt8
  | bits32 entry => [entry.checksum, entry.intermediateChecksum]
  | bits64 entry => [entry.checksum]

/-- The bytes of an entry point, with checksums computed anew. -/
def bytes : EntryPoint → List UInt8
  | bits32 entry => entry.bytes
  | bits64 entry => entry.bytes

/-- The address of the table. -/
def tableAddress : EntryPoint → UInt64
  | bits32 entry => entry.tableAddress.toUInt64
  | bits64 entry => entry.tableAddress

/-- The size of the table, or the greatest size it can have. -/
def tableSize : EntryPoint → Nat
  | bits32 entry => entry.tableLength.toNat
  | bits64 entry => entry.tableMaxSize.toNat

/-- The version of the specification. -/
def version : EntryPoint → Version
  | bits32 entry => ⟨entry.majorVersion, entry.minorVersion, 0⟩
  | bits64 entry => ⟨entry.majorVersion, entry.minorVersion, entry.documentRevision⟩

/-- All fields but the checksums, which are zero. -/
def withoutChecksums : EntryPoint → EntryPoint
  | bits32 entry => bits32 { entry with checksum := 0, intermediateChecksum := 0 }
  | bits64 entry => bits64 { entry with checksum := 0 }

/-- The entry point with the checksums that writing computes. -/
def refreshed : EntryPoint → EntryPoint
  | bits32 entry =>
    bits32 { entry with
      checksum := entry.freshChecksum
      intermediateChecksum := entry.freshAreaChecksum }
  | bits64 entry => bits64 { entry with checksum := entry.freshChecksum }

/-- All fields but the address of the table and the checksums, which are zero. -/
def withoutPlace : EntryPoint → EntryPoint
  | bits32 entry => bits32
      { entry with checksum := 0, intermediateChecksum := 0, tableAddress := 0 }
  | bits64 entry => bits64 { entry with checksum := 0, tableAddress := 0 }

/-- The entry point with another address of the table, of which a 32-bit one keeps the low bits. -/
def withTableAddress (entry : EntryPoint) (address : UInt64) : EntryPoint :=
  match entry with
  | bits32 entry => bits32 { entry with tableAddress := address.toUInt32 }
  | bits64 entry => bits64 { entry with tableAddress := address }

/-- The entry point with another address of the table, if there is room for the address. -/
def setTableAddress (entry : EntryPoint) (address : UInt64) : Except Error EntryPoint :=
  match entry with
  | bits32 entry =>
    if address.toNat < 0x100000000 then .ok (bits32 { entry with tableAddress := address.toUInt32 })
    else .error (.misuse .addressTooWide)
  | bits64 entry => .ok (bits64 { entry with tableAddress := address })

/-- The text of an entry point. -/
def render : EntryPoint → String
  | bits32 entry => entry.render
  | bits64 entry => entry.render

/-! ### Editing -/

/-- What can be done to an entry point in memory. -/
inductive Edit where
  /-- An address of the table is set; one that is refused changes nothing. -/
  | moveTable (address : UInt64)
  /-- Fields of a 32-bit entry point are assigned. -/
  | assign32 (change : Entry32 → Entry32)
  /-- Fields of a 64-bit entry point are assigned. -/
  | assign64 (change : Entry64 → Entry64)

/-- The entry point after one edit. An assignment to fields of the other variant finds none. -/
def edit (entry : EntryPoint) : Edit → EntryPoint
  | .moveTable address =>
    match entry.setTableAddress address with
    | .ok moved => moved
    | .error _ => entry
  | .assign32 change =>
    match entry with
    | bits32 fields => bits32 (change fields)
    | bits64 fields => bits64 fields
  | .assign64 change =>
    match entry with
    | bits32 fields => bits32 fields
    | bits64 fields => bits64 (change fields)

/-- The entry point after some edits, the first of them first. -/
def edited (entry : EntryPoint) (edits : List Edit) : EntryPoint :=
  edits.foldl edit entry

end EntryPoint

end Dmi
