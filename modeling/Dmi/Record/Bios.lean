/-
**BIOS Information (type 0).**

The firmware's vendor, version and abilities. Its ROM size is one byte in units of 64 kB; the byte
FFh defers to a word with a unit of its own.
-/

import Dmi.Layout.Basic
import Dmi.Record.Lines
import Dmi.Value.Take

namespace Dmi

/-- BIOS Information. -/
structure Bios where
  vendor : Text
  version : Text
  startingSegment : UInt16
  releaseDate : Text
  /-- Units of 64 kB, less one. -/
  romSize : UInt8
  characteristics : UInt64
  characteristics1 : UInt8
  characteristics2 : UInt8
  major : UInt8
  minor : UInt8
  controllerMajor : UInt8
  controllerMinor : UInt8
  /-- The size in bits 13 to 0 and its unit above them. -/
  extendedRomSize : UInt16
  deriving DecidableEq, Repr

namespace Bios

def title : String := "BIOSInfo"

def minSize : Nat := 0x12

def layout : Layout :=
  .ofFields
    [.text "Vendor", .text "Version", .word "StartingAddressSegment", .text "ReleaseDate",
      .byte "ROMSize", .qword "Characteristics", .byte "CharacteristicsExt1",
      .byte "CharacteristicsExt2", (.byte "BIOSMajor" : Field).orElse 0xFF,
      (.byte "BIOSMinor" : Field).orElse 0xFF, (.byte "ECMajor" : Field).orElse 0xFF,
      (.byte "ECMinor" : Field).orElse 0xFF, .word "ExtendedROMSize"]

def take : Take Bios := do
  return {
    vendor := ← Take.text
    version := ← Take.text
    startingSegment := ← Take.word
    releaseDate := ← Take.text
    romSize := ← Take.byte
    characteristics := ← Take.qword
    characteristics1 := ← Take.byte
    characteristics2 := ← Take.byte
    major := ← Take.byte
    minor := ← Take.byte
    controllerMajor := ← Take.byte
    controllerMinor := ← Take.byte
    extendedRomSize := ← Take.word }

def values (bios : Bios) : List Value :=
  [.text bios.vendor, .text bios.version, .word bios.startingSegment, .text bios.releaseDate,
    .byte bios.romSize, .qword bios.characteristics, .byte bios.characteristics1,
    .byte bios.characteristics2, .byte bios.major, .byte bios.minor, .byte bios.controllerMajor,
    .byte bios.controllerMinor, .word bios.extendedRomSize]

/-- The size of the ROM in bytes. Bits 15 and 14 of the extended size say whether it counts MB, GB
or bytes. -/
def romBytes (bios : Bios) : Nat :=
  if bios.romSize ≠ 0xFF ∨ bios.extendedRomSize = 0 then
    65536 * (bios.romSize.toNat + 1)
  else
    let size := bios.extendedRomSize.toNat
    let unit := match size / 0x4000 with
      | 0 => 0x100000
      | 1 => 0x40000000
      | _ => 1
    size % 0x4000 * unit

def characteristicNames : List (Nat × String) :=
  [(0, "Reserved"), (1, "Reserved"), (2, "Unknown"), (3, "BIOS characteristics not supported"),
    (4, "ISA is supported"), (5, "MCA is supported"), (6, "EISA is supported"),
    (7, "PCI is supported"), (8, "PC Card (PCMCIA) is supported"), (9, "PNP is supported"),
    (10, "APM is supported"), (11, "BIOS is upgradeable"), (12, "BIOS shadowing is allowed"),
    (13, "VLB is supported"), (14, "ESCD support is available"), (15, "Boot from CD is supported"),
    (16, "Selectable boot is supported"), (17, "BIOS ROM is socketed"),
    (18, "Boot from PC Card (PCMCIA) is supported"), (19, "EDD is supported"),
    (20, "Japanese floppy for NEC 9800 1.2 MB is supported (int 13h)"),
    (21, "Japanese floppy for Toshiba 1.2 MB is supported (int 13h)"),
    (22, "5.25\"/360 kB floppy services are supported (int 13h)"),
    (23, "5.25\"/1.2 MB floppy services are supported (int 13h)"),
    (24, "3.5\"/720 kB floppy services are supported (int 13h)"),
    (25, "3.5\"/2.88 MB floppy services are supported (int 13h)"),
    (26, "Print screen service is supported (int 5h)"),
    (27, "8042 keyboard services are supported (int 9h)"),
    (28, "Serial services are supported (int 14h)"),
      (29, "Printer services are supported (int 17h)"),
    (30, "CGA/mono video services are supported (int 10h)"), (31, "NEC PC-98")]

/-- The names of the characteristics in the first extension byte. -/
def characteristicNames1 : List (Nat × String) :=
  [(0, "ACPI is supported"), (1, "USB legacy is supported"), (2, "AGP is supported"),
    (3, "I2O boot is supported"), (4, "LS-120 boot is supported"),
    (5, "ATAPI Zip drive boot is supported"), (6, "IEEE 1394 boot is supported"),
    (7, "Smart battery is supported")]

/-- The names of the characteristics in the second extension byte. -/
def characteristicNames2 : List (Nat × String) :=
  [(0, "BIOS boot specification is supported"),
    (1, "Function key-initiated network boot is supported"),
    (2, "Targeted content distribution is supported"), (3, "UEFI is supported"),
    (4, "System is a virtual machine")]

def lines (bios : Bios) : String :=
  let segment := bios.startingSegment.toNat
  String.join
    [Lines.field "Vendor" bios.vendor.render,
      Lines.field "Version" bios.version.render,
      Lines.field "Release Date" bios.releaseDate.render,
      Lines.onlyIf (segment ≠ 0) <|
        Lines.field "Address" ("0x" ++ Hex.upper 4 segment ++ "0") ++
          Lines.field "Runtime Size" (Lines.bytes ((0x10000 - segment) * 16)),
      Lines.field "ROM Size" (Lines.bytes bios.romBytes),
      Lines.heading "Characteristics",
      Lines.flagItems characteristicNames bios.characteristics.toNat,
      Lines.flagItems characteristicNames1 bios.characteristics1.toNat,
      Lines.flagItems characteristicNames2 bios.characteristics2.toNat,
      Lines.onlyIf (bios.major ≠ 0xFF) <|
        Lines.field "BIOS Revision" (bios.major.toNat.repr ++ "." ++ bios.minor.toNat.repr),
      Lines.onlyIf (bios.controllerMajor ≠ 0xFF) <|
        Lines.field "Firmware Revision"
          (bios.controllerMajor.toNat.repr ++ "." ++ bios.controllerMinor.toNat.repr)]

end Bios

end Dmi
