/-
**The 64-bit entry point.**

Twenty-four bytes that begin with `_SM3_` and have one checksum, which is kept as it was read and
computed anew for writing. The size of the table is only a greatest size.
-/

import Dmi.EntryPoint.Checksum
import Dmi.Error
import Dmi.LittleEndian

namespace Dmi

/-- The fields of a 64-bit entry point. -/
structure Entry64 where
  /-- The checksum as it was read. -/
  checksum : UInt8
  length : UInt8
  majorVersion : UInt8
  minorVersion : UInt8
  documentRevision : UInt8
  revision : UInt8
  reserved : UInt8
  tableMaxSize : UInt32
  tableAddress : UInt64
  deriving DecidableEq, Repr

namespace Entry64

/-- The number of bytes. -/
def size : Nat := 0x18

/-- `_SM3_` -/
def anchor : List UInt8 := [0x5F, 0x53, 0x4D, 0x33, 0x5F]

/-- The fields of the bytes of an entry point. -/
def ofImage (image : List UInt8) : Entry64 :=
  let byte (offset : Nat) : UInt8 := image.getD offset 0
  let number (offset width : Nat) : Nat := LittleEndian.value ((image.drop offset).take width)
  { checksum := byte 0x05
    length := byte 0x06
    majorVersion := byte 0x07
    minorVersion := byte 0x08
    documentRevision := byte 0x09
    revision := byte 0x0A
    reserved := byte 0x0B
    tableMaxSize := UInt32.ofNat (number 0x0C 4)
    tableAddress := UInt64.ofNat (number 0x10 8) }

/-- The entry point of exactly `size` bytes. -/
def ofImage? (image : List UInt8) : Except Error Entry64 :=
  let entry := ofImage image
  let checksum := Checksum.expected image 0x05
  if image.take 5 ≠ anchor then .error (.unknownAnchor (image.take 5))
  else if entry.length.toNat ≠ size then .error (.wrongLength (UInt8.ofNat size) entry.length)
  else if entry.checksum ≠ checksum then .error (.wrongChecksum checksum entry.checksum)
  else .ok entry

/-- The entry point that some bytes begin with. -/
def parse (bytes : List UInt8) : Except Error Entry64 :=
  if bytes.length < size then .error (.endOfData .entry64 bytes.length)
  else ofImage? (bytes.take size)

/-- The bytes of an entry point with a given checksum. -/
def image (entry : Entry64) (checksum : UInt8) : List UInt8 :=
  anchor ++
    [checksum, entry.length, entry.majorVersion, entry.minorVersion, entry.documentRevision,
      entry.revision, entry.reserved] ++
    LittleEndian.digits 4 entry.tableMaxSize.toNat ++
    LittleEndian.digits 8 entry.tableAddress.toNat

/-- The checksum that writing computes. -/
def freshChecksum (entry : Entry64) : UInt8 :=
  Checksum.complement (entry.image 0)

/-- The bytes of an entry point, with the checksum computed anew. -/
def bytes (entry : Entry64) : List UInt8 :=
  entry.image (Checksum.complement (entry.image 0))

/-- The text of an entry point. -/
def render (entry : Entry64) : String :=
  "SMBIOS " ++ entry.majorVersion.toNat.repr ++ "." ++ entry.minorVersion.toNat.repr ++ "." ++
    entry.documentRevision.toNat.repr

end Entry64

end Dmi
