/-
**Processor Information (type 4).**

A processor, its speeds, caches and cores. The family and three counts are bytes that defer to a
later word when they are full; whether the word is there is told by the length of the structure.
-/

import Dmi.Layout.Basic
import Dmi.Record.Lines
import Dmi.Value.Take

namespace Dmi

/-- The voltage of a processor. -/
inductive Voltage where
  /-- The present voltage in tenths of a volt. -/
  | present (tenths : UInt8)
  /-- The voltages that the socket can give: 5.0, 3.3 and 2.9 volts. -/
  | supported (high middle low : Bool)
  deriving DecidableEq, Repr

namespace Voltage

/-- The voltage that a byte says: bit 7 announces a present voltage in the bits below it. -/
def ofByte (byte : UInt8) : Voltage :=
  if byte &&& 0x80 ≠ 0 then present (byte &&& 0x7F)
  else supported (byte &&& 1 ≠ 0) (byte &&& 2 ≠ 0) (byte &&& 4 ≠ 0)

/-- The text of a voltage. -/
def render : Voltage → String
  | present tenths => (tenths.toNat / 10).repr ++ "." ++ (tenths.toNat % 10).repr ++ " V"
  | supported high middle low =>
    let names := [(high, "5.0 V"), (middle, "3.3 V"), (low, "2.9 V")]
    match (names.filter fun name => name.1).map fun name => name.2 with
    | [] => "Unknown"
    | known => String.intercalate " " known

end Voltage

/-- Processor Information. -/
structure Processor where
  socket : Text
  type : UInt8
  /-- The family, or FEh for the one in `family2`. -/
  family1 : UInt8
  manufacturer : Text
  id : Block 8
  version : Text
  voltage : UInt8
  /-- MHz, zero if unknown, like the two speeds below. -/
  externalClock : UInt16
  maxSpeed : UInt16
  currentSpeed : UInt16
  status : UInt8
  upgrade : UInt8
  l1CacheHandle : UInt16
  l2CacheHandle : UInt16
  l3CacheHandle : UInt16
  serialNumber : Text
  assetTag : Text
  partNumber : Text
  coreCount1 : UInt8
  coreEnabled1 : UInt8
  threadCount1 : UInt8
  characteristics : UInt16
  family2 : UInt16
  coreCount2 : UInt16
  coreEnabled2 : UInt16
  threadCount2 : UInt16
  threadEnabled : UInt16
  deriving DecidableEq, Repr

namespace Processor

def title : String := "ProcessorInfo"

def minSize : Nat := 0x1A

def layout : Layout :=
  .ofFields
    [.text "SocketDesignation", .byte "ProcessorType", .byte "Family", .text "Manufacturer",
      .bytes "ID" 8, .text "Version", .byte "Voltage", .word "ExternalClock", .word "MaxSpeed",
      .word "CurrentSpeed", .byte "Status", .byte "Upgrade", .word "L1CacheHandle",
      .word "L2CacheHandle", .word "L3CacheHandle", .text "SerialNumber", .text "AssetTag",
      .text "PartNumber", .byte "CoreCount", .byte "CoreEnabled", .byte "ThreadCount",
      .word "Characteristics", .word "Family2", .word "CoreCount2", .word "CoreEnabled2",
      .word "ThreadCount2", .word "ThreadEnabled"]

def take : Take Processor := do
  return {
    socket := ← Take.text
    type := ← Take.byte
    family1 := ← Take.byte
    manufacturer := ← Take.text
    id := ← Take.block 8
    version := ← Take.text
    voltage := ← Take.byte
    externalClock := ← Take.word
    maxSpeed := ← Take.word
    currentSpeed := ← Take.word
    status := ← Take.byte
    upgrade := ← Take.byte
    l1CacheHandle := ← Take.word
    l2CacheHandle := ← Take.word
    l3CacheHandle := ← Take.word
    serialNumber := ← Take.text
    assetTag := ← Take.text
    partNumber := ← Take.text
    coreCount1 := ← Take.byte
    coreEnabled1 := ← Take.byte
    threadCount1 := ← Take.byte
    characteristics := ← Take.word
    family2 := ← Take.word
    coreCount2 := ← Take.word
    coreEnabled2 := ← Take.word
    threadCount2 := ← Take.word
    threadEnabled := ← Take.word }

def values (cpu : Processor) : List Value :=
  [.text cpu.socket, .byte cpu.type, .byte cpu.family1, .text cpu.manufacturer,
    .bytes cpu.id.val, .text cpu.version, .byte cpu.voltage, .word cpu.externalClock,
    .word cpu.maxSpeed, .word cpu.currentSpeed, .byte cpu.status, .byte cpu.upgrade,
    .word cpu.l1CacheHandle, .word cpu.l2CacheHandle, .word cpu.l3CacheHandle,
    .text cpu.serialNumber, .text cpu.assetTag, .text cpu.partNumber, .byte cpu.coreCount1,
    .byte cpu.coreEnabled1, .byte cpu.threadCount1, .word cpu.characteristics, .word cpu.family2,
    .word cpu.coreCount2, .word cpu.coreEnabled2, .word cpu.threadCount2, .word cpu.threadEnabled]

/-! ### Values that defer to a later word -/

/-- The value of a byte, or of the word it defers to when it is `full` and the structure has the
word. -/
def deferred (byte full : UInt8) (word : UInt16) (hasWord : Bool) : UInt16 :=
  if byte = full ∧ hasWord then word else byte.toUInt16

/-- The family, in a structure of `length` bytes. -/
def family (cpu : Processor) (length : Nat) : UInt16 :=
  deferred cpu.family1 0xFE cpu.family2 (0x2A ≤ length)

/-- The number of cores, in a structure of `length` bytes. -/
def coreCount (cpu : Processor) (length : Nat) : UInt16 :=
  deferred cpu.coreCount1 0xFF cpu.coreCount2 (0x2C ≤ length)

/-- The number of cores in use, in a structure of `length` bytes. -/
def coreEnabled (cpu : Processor) (length : Nat) : UInt16 :=
  deferred cpu.coreEnabled1 0xFF cpu.coreEnabled2 (0x2E ≤ length)

/-- The number of threads, in a structure of `length` bytes. -/
def threadCount (cpu : Processor) (length : Nat) : UInt16 :=
  deferred cpu.threadCount1 0xFF cpu.threadCount2 (0x30 ≤ length)

/-- Whether the socket holds a processor. -/
def isPopulated (cpu : Processor) : Bool :=
  cpu.status &&& 0x40 ≠ 0

/-! ### Names -/

def characteristicNames : List (Nat × String) :=
  [(1, "Unknown"), (2, "64-bit capable"), (3, "Multi-Core"), (4, "Hardware Thread"),
    (5, "Execute Protection"), (6, "Enhanced Virtualization"), (7, "Power/Performance Control"),
    (8, "128-bit Capable"), (9, "Arm64 SoC ID")]

def typeNames : List String :=
  ["Other", "Unknown", "Central Processor", "Math Processor", "DSP Processor", "Video Processor"]

def statusNames : List (Nat × String) :=
  [(0x00, "Unknown"), (0x01, "Enabled"), (0x02, "Disabled By User"), (0x03, "Disabled By BIOS"),
    (0x04, "Idle"), (0x07, "Other")]

/-- The names of the sockets. -/
def upgradeNames : List (Nat × String) :=
  [(0x01, "Other"), (0x02, "Unknown"), (0x03, "Daughter Board"), (0x04, "ZIF Socket"),
    (0x05, "Replaceable Piggy Back"), (0x06, "None"), (0x07, "LIF Socket"), (0x08, "Slot 1"),
    (0x09, "Slot 2"), (0x0a, "370-pin Socket"), (0x0b, "Slot A"), (0x0c, "Slot M"),
    (0x0d, "Socket 423"), (0x0e, "Socket A (Socket 462)"), (0x0f, "Socket 478"),
      (0x10, "Socket 754"),
    (0x11, "Socket 940"), (0x12, "Socket 939"), (0x13, "Socket mPGA604"), (0x14, "Socket LGA771"),
    (0x15, "Socket LGA775"), (0x16, "Socket S1"), (0x17, "Socket AM2"), (0x18, "Socket F (1207)"),
    (0x19, "Socket LGA1366"), (0x1a, "Socket G34"), (0x1b, "Socket AM3"), (0x1c, "Socket C32"),
    (0x1d, "Socket LGA1156"), (0x1e, "Socket LGA1567"), (0x1f, "Socket PGA988A"),
    (0x20, "Socket BGA1288"), (0x21, "Socket rPGA988B"), (0x22, "Socket BGA1023"),
    (0x23, "Socket BGA1224"), (0x24, "Socket BGA1155"), (0x25, "Socket LGA1356"),
    (0x26, "Socket LGA2011"), (0x27, "Socket FS1"), (0x28, "Socket FS2"), (0x29, "Socket FM1"),
    (0x2a, "Socket FM2"), (0x2b, "Socket LGA2011-3"), (0x2c, "Socket LGA1356-3"),
    (0x2d, "Socket LGA1150"), (0x2e, "Socket BGA1168"), (0x2f, "Socket BGA1234"),
    (0x30, "Socket BGA1364"), (0x31, "Socket AM4"), (0x32, "Socket LGA1151"),
      (0x33, "Socket BGA1356"),
    (0x34, "Socket BGA1440"), (0x35, "Socket BGA1515"), (0x36, "Socket LGA3647-1"),
    (0x37, "Socket SP3"), (0x38, "Socket SP3r2"), (0x39, "Socket LGA2066"),
      (0x3a, "Socket BGA1392"),
    (0x3b, "Socket BGA1510"), (0x3c, "Socket BGA1528"), (0x3d, "Socket LGA4189"),
    (0x3e, "Socket LGA1200"), (0x3f, "Socket LGA4677"), (0x40, "Socket LGA1700"),
    (0x41, "Socket BGA1744"), (0x42, "Socket BGA1781"), (0x43, "Socket BGA1211"),
    (0x44, "Socket BGA2422"), (0x45, "Socket LGA1211"), (0x46, "Socket LGA2422"),
    (0x47, "Socket LGA5773"), (0x48, "Socket BGA5773")]

/-- The names of the families. -/
def familyNames : List (Nat × String) :=
  [(0x01, "Other"), (0x02, "Unknown"), (0x03, "8086"), (0x04, "80286"), (0x05, "80386"),
    (0x06, "80486"), (0x07, "8087"), (0x08, "80287"), (0x09, "80387"), (0x0a, "80487"),
    (0x0b, "Pentium"), (0x0c, "Pentium Pro"), (0x0d, "Pentium II"), (0x0e, "Pentium MMX"),
    (0x0f, "Celeron"), (0x10, "Pentium II Xeon"), (0x11, "Pentium III"), (0x18, "Duron"),
      (0x19, "K5"),
    (0x1a, "K6"), (0x1b, "K6-2"), (0x1c, "K6-3"), (0x1d, "Athlon"), (0x28, "Core Duo"),
    (0x29, "Core Duo Mobile"), (0x2a, "Core Solo Mobile"), (0x2b, "Atom"), (0x2c, "Core M"),
    (0x2d, "Core m3"), (0x2e, "Core m5"), (0x2f, "Core m7"),
    (0x38, "Turion II Ultra Dual-Core Mobile M"), (0x39, "Turion II Dual-Core Mobile M"),
    (0x3a, "Athlon II Dual-Core M"), (0x3b, "Opteron 6100"), (0x3c, "Opteron 4100"),
    (0x3d, "Opteron 6200"), (0x3e, "Opteron 4200"), (0x3f, "FX"), (0x6b, "Zen"), (0x70, "Hobbit"),
    (0x78, "Crusoe TM5000"), (0x79, "Crusoe TM3000"), (0x7a, "Efficeon TM8000"), (0x80, "Weitek"),
    (0x82, "Itanium"), (0x83, "Athlon 64"), (0x84, "Opteron"), (0x85, "Sempron"),
      (0x86, "Turion 64"),
    (0x87, "Dual-Core Opteron"), (0x88, "Athlon 64 X2"), (0x89, "Turion 64 X2"),
    (0x8a, "Quad-Core Opteron"), (0x8b, "Third-Generation Opteron"), (0x8c, "Phenom FX"),
    (0x8d, "Phenom X4"), (0x8e, "Phenom X2"), (0x8f, "Athlon X2"), (0xa1, "Quad-Core Xeon 3200"),
    (0xa2, "Dual-Core Xeon 3000"), (0xa3, "Quad-Core Xeon 5300"), (0xa4, "Dual-Core Xeon 5100"),
    (0xa5, "Dual-Core Xeon 5000"), (0xa6, "Dual-Core Xeon LV"), (0xa7, "Dual-Core Xeon ULV"),
    (0xa8, "Dual-Core Xeon 7100"), (0xa9, "Quad-Core Xeon 5400"), (0xaa, "Quad-Core Xeon"),
    (0xab, "Dual-Core Xeon 5200"), (0xac, "Dual-Core Xeon 7200"), (0xad, "Quad-Core Xeon 7300"),
    (0xae, "Quad-Core Xeon 7400"), (0xaf, "Multi-Core Xeon 7400"), (0xb3, "Xeon"),
      (0xb5, "Pentium 4"),
    (0xbf, "Core 2 Duo"), (0xc0, "Core 2 Solo"), (0xc1, "Core 2 Extreme"), (0xc2, "Core 2 Quad"),
    (0xc3, "Core 2 Extreme Mobile"), (0xc4, "Core 2 Duo Mobile"), (0xc5, "Core 2 Solo Mobile"),
    (0xc6, "Core i7"), (0xc7, "Dual-Core Celeron"), (0xcd, "Core i5"), (0xce, "Core i3"),
    (0xcf, "Core i9"), (0xe6, "Embedded Opteron Quad-Core"), (0xe7, "Phenom Triple-Core"),
    (0xee, "Opteron 3000"), (0xef, "Opteron 5300"), (0xfe, "Family Indicated By Family2"),
    (0x100, "ARMv7"), (0x101, "ARMv8"), (0x102, "ARMv9"), (0x104, "SH-3"), (0x105, "SH-4"),
    (0x118, "ARM"), (0x119, "StrongARM"), (0x12c, "6x86"), (0x12d, "MediaGX"), (0x12e, "MII"),
    (0x140, "WinChip"), (0x15e, "DSP"), (0x1f4, "Video Processor"), (0x200, "RV32"),
      (0x201, "RV64"),
    (0x202, "RV128"), (0x258, "LoongArch")]

/-- The name of the family, in a structure of `length` bytes. -/
def familyName (cpu : Processor) (length : Nat) : String :=
  (familyNames.lookup (cpu.family length).toNat).getD Lines.outOfRange

/-! ### The report -/

/-- A speed in MHz. -/
def speedText (speed : UInt16) : String :=
  if speed = 0 then "Unknown" else speed.toNat.repr ++ " MHz"

/-- The handle of a cache. -/
def cacheText (handle : UInt16) : String :=
  if handle = 0xFFFF then "Not Provided" else "0x" ++ Hex.upper 4 handle.toNat

def lines (cpu : Processor) (length : Nat) : String :=
  String.join
    [Lines.field "Socket Designation" cpu.socket.render,
      Lines.field "Type" (Lines.nth typeNames cpu.type.toNat),
      Lines.field "Family" (cpu.familyName length),
      Lines.field "Manufacturer" cpu.manufacturer.render,
      Lines.heading "ID",
      String.join (cpu.id.val.map fun byte => " " ++ Hex.upper 2 byte.toNat),
      Lines.field "Version" cpu.version.render,
      Lines.field "Voltage" (Voltage.ofByte cpu.voltage).render,
      Lines.field "External Clock" (speedText cpu.externalClock),
      Lines.field "Max Speed" (speedText cpu.maxSpeed),
      Lines.field "Current Speed" (speedText cpu.currentSpeed),
      Lines.field "Status"
        (if cpu.isPopulated then
          "Populated, " ++ Lines.nameOf statusNames (cpu.status &&& 0x07).toNat
        else "Unpopulated"),
      Lines.field "Upgrade" (Lines.nameOf upgradeNames cpu.upgrade.toNat),
      Lines.onlyIf (0x20 ≤ length) <|
        Lines.field "L1 Cache Handle" (cacheText cpu.l1CacheHandle) ++
          Lines.field "L2 Cache Handle" (cacheText cpu.l2CacheHandle) ++
          Lines.field "L3 Cache Handle" (cacheText cpu.l3CacheHandle),
      Lines.onlyIf (0x23 ≤ length) <|
        Lines.field "Serial Number" cpu.serialNumber.render ++
          Lines.field "Asset Tag" cpu.assetTag.render ++
          Lines.field "Part Number" cpu.partNumber.render,
      Lines.onlyIf (0x28 ≤ length) <|
        Lines.field "Core Count" (cpu.coreCount length).toNat.repr ++
          Lines.field "Core Enabled" (cpu.coreEnabled length).toNat.repr ++
          Lines.field "Thread Count" (cpu.threadCount length).toNat.repr ++
          Lines.heading "Characteristics" ++
          Lines.onlyIf (cpu.characteristics = 0) " None" ++
          Lines.flagItems characteristicNames cpu.characteristics.toNat]

end Processor

end Dmi
