/-
**The 32-bit entry point.**

Thirty-one bytes that begin with `_SM_` and hold, from offset 10h on, an intermediate area that
begins with `_DMI_`. The whole and the area each have a checksum. An entry point keeps the checksums
it was read with; writing computes both anew, the one of the area first, since its byte counts in
the other.
-/

import Dmi.Block
import Dmi.EntryPoint.Checksum
import Dmi.Error
import Dmi.LittleEndian

namespace Dmi

/-- The fields of a 32-bit entry point. -/
structure Entry32 where
  /-- The checksum as it was read. -/
  checksum : UInt8
  length : UInt8
  majorVersion : UInt8
  minorVersion : UInt8
  maxStructureSize : UInt16
  revision : UInt8
  formattedArea : Block 5
  /-- The checksum of the intermediate area as it was read. -/
  intermediateChecksum : UInt8
  tableLength : UInt16
  tableAddress : UInt32
  structureCount : UInt16
  bcdRevision : UInt8
  deriving DecidableEq, Repr

namespace Entry32

/-- The number of bytes. -/
def size : Nat := 0x1F

/-- `_SM_` -/
def anchor : List UInt8 := [0x5F, 0x53, 0x4D, 0x5F]

/-- `_DMI_` -/
def intermediateAnchor : List UInt8 := [0x5F, 0x44, 0x4D, 0x49, 0x5F]

/-- Where the intermediate area begins. -/
def intermediateStart : Nat := 0x10

/-- The fields of the bytes of an entry point. -/
def ofImage (image : List UInt8) : Entry32 :=
  let byte (offset : Nat) : UInt8 := image.getD offset 0
  let number (offset width : Nat) : Nat := LittleEndian.value ((image.drop offset).take width)
  { checksum := byte 0x04
    length := byte 0x05
    majorVersion := byte 0x06
    minorVersion := byte 0x07
    maxStructureSize := UInt16.ofNat (number 0x08 2)
    revision := byte 0x0A
    formattedArea := Block.ofList 5 (image.drop 0x0B)
    intermediateChecksum := byte 0x15
    tableLength := UInt16.ofNat (number 0x16 2)
    tableAddress := UInt32.ofNat (number 0x18 4)
    structureCount := UInt16.ofNat (number 0x1C 2)
    bcdRevision := byte 0x1E }

/-- The entry point of exactly `size` bytes. -/
def ofImage? (image : List UInt8) : Except Error Entry32 :=
  let entry := ofImage image
  let area := image.drop intermediateStart
  let checksum := Checksum.expected image 0x04
  let areaChecksum := Checksum.expected area 0x05
  if image.take 4 ≠ anchor then .error (.unknownAnchor (image.take 5))
  else if entry.length.toNat ≠ size then .error (.wrongLength (UInt8.ofNat size) entry.length)
  else if entry.checksum ≠ checksum then .error (.wrongChecksum checksum entry.checksum)
  else if area.take 5 ≠ intermediateAnchor then .error (.unknownIntermediateAnchor (area.take 5))
  else if entry.intermediateChecksum ≠ areaChecksum then
    .error (.wrongIntermediateChecksum areaChecksum entry.intermediateChecksum)
  else .ok entry

/-- The entry point that some bytes begin with. -/
def parse (bytes : List UInt8) : Except Error Entry32 :=
  if bytes.length < size then .error (.endOfData .entry32 bytes.length)
  else ofImage? (bytes.take size)

/-- The bytes of the intermediate area with a given checksum. -/
def area (entry : Entry32) (checksum : UInt8) : List UInt8 :=
  intermediateAnchor ++ [checksum] ++
    LittleEndian.digits 2 entry.tableLength.toNat ++
    LittleEndian.digits 4 entry.tableAddress.toNat ++
    LittleEndian.digits 2 entry.structureCount.toNat ++ [entry.bcdRevision]

/-- The bytes in front of the intermediate area with a given checksum. -/
def front (entry : Entry32) (checksum : UInt8) : List UInt8 :=
  anchor ++ [checksum, entry.length, entry.majorVersion, entry.minorVersion] ++
    LittleEndian.digits 2 entry.maxStructureSize.toNat ++ [entry.revision] ++
    entry.formattedArea.val

/-- The bytes of an entry point with given checksums. -/
def image (entry : Entry32) (checksum areaChecksum : UInt8) : List UInt8 :=
  entry.front checksum ++ entry.area areaChecksum

/-- The checksum of the intermediate area that writing computes. -/
def freshAreaChecksum (entry : Entry32) : UInt8 :=
  Checksum.complement (entry.area 0)

/-- The checksum of the whole that writing computes. -/
def freshChecksum (entry : Entry32) : UInt8 :=
  Checksum.complement (entry.image 0 entry.freshAreaChecksum)

/-- The bytes of an entry point, with both checksums computed anew. -/
def bytes (entry : Entry32) : List UInt8 :=
  let area := entry.area (Checksum.complement (entry.area 0))
  entry.front (Checksum.complement (entry.front 0 ++ area)) ++ area

/-- The text of an entry point. -/
def render (entry : Entry32) : String :=
  "SMBIOS " ++ entry.majorVersion.toNat.repr ++ "." ++ entry.minorVersion.toNat.repr

end Entry32

end Dmi
