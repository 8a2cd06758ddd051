/-
**Cache Information (type 7).**

A processor cache. Its sizes are words, followed in newer structures by doublewords that count when
they are not zero; in both the top bit asks for units of 64 kB in place of 1 kB.
-/

import Dmi.Layout.Basic
import Dmi.Record.Lines
import Dmi.Value.Take

namespace Dmi

/-- Cache Information. -/
structure Cache where
  socket : Text
  /-- Level, socket, location, use and mode in groups of bits. -/
  configuration : UInt16
  maxSize1 : UInt16
  installedSize1 : UInt16
  supportedSram : UInt16
  currentSram : UInt16
  /-- Nanoseconds, zero if unknown. -/
  speed : UInt8
  errorCorrection : UInt8
  systemType : UInt8
  associativity : UInt8
  maxSize2 : UInt32
  installedSize2 : UInt32
  deriving DecidableEq, Repr

namespace Cache

def title : String := "CacheInfo"

def minSize : Nat := 0x0F

def layout : Layout :=
  .ofFields
    [.text "SocketDesignation", .word "Configuration", .word "MaximumSize", .word "InstalledSize",
      .word "SupportedSRAMType", .word "CurrentSRAMType", .byte "Speed",
      .byte "ErrorCorrectionType", .byte "SystemType", .byte "Associativity",
      .dword "MaximumSize2", .dword "InstalledSize2"]

def take : Take Cache := do
  return {
    socket := ← Take.text
    configuration := ← Take.word
    maxSize1 := ← Take.word
    installedSize1 := ← Take.word
    supportedSram := ← Take.word
    currentSram := ← Take.word
    speed := ← Take.byte
    errorCorrection := ← Take.byte
    systemType := ← Take.byte
    associativity := ← Take.byte
    maxSize2 := ← Take.dword
    installedSize2 := ← Take.dword }

def values (cache : Cache) : List Value :=
  [.text cache.socket, .word cache.configuration, .word cache.maxSize1,
    .word cache.installedSize1, .word cache.supportedSram, .word cache.currentSram,
    .byte cache.speed, .byte cache.errorCorrection, .byte cache.systemType,
    .byte cache.associativity, .dword cache.maxSize2, .dword cache.installedSize2]

/-- The size that `bits` bits say: the top bit selects the unit and the others count it. -/
def sizeOf (bits size : Nat) : Nat :=
  size % (1 <<< (bits - 1)) * (if size.testBit (bits - 1) then 64 * 1024 else 1024)

/-- The size that a word and its successor say. -/
def sizeOfBoth (size1 : UInt16) (size2 : UInt32) : Nat :=
  if sizeOf 32 size2.toNat ≠ 0 then sizeOf 32 size2.toNat else sizeOf 16 size1.toNat

/-- The greatest size in bytes. -/
def maxBytes (cache : Cache) : Nat :=
  sizeOfBoth cache.maxSize1 cache.maxSize2

/-- The installed size in bytes. -/
def installedBytes (cache : Cache) : Nat :=
  sizeOfBoth cache.installedSize1 cache.installedSize2

/-- The level, counted from 1. -/
def level (cache : Cache) : Nat :=
  (cache.configuration &&& 0x07).toNat + 1

/-- Whether the cache is in use. -/
def isEnabled (cache : Cache) : Bool :=
  cache.configuration &&& 0x80 ≠ 0

/-- Whether the cache has a socket. -/
def isSocketed (cache : Cache) : Bool :=
  cache.configuration &&& 0x08 ≠ 0

/-- The operational mode. -/
def modeName (cache : Cache) : String :=
  match cache.configuration.toNat / 0x100 % 4 with
  | 0 => "Write Through"
  | 1 => "Write Back"
  | 2 => "Varies With Memory Address"
  | _ => "Unknown"

/-- Where the cache is. -/
def locationName (cache : Cache) : String :=
  match cache.configuration.toNat / 0x20 % 4 with
  | 0 => "Internal"
  | 1 => "External"
  | 2 => "Reserved"
  | _ => "Unknown"

/-- The names of the types of memory. -/
def sramNames : List (Nat × String) :=
  [(0, "Other"), (1, "Unknown"), (2, "Non-Burst"), (3, "Burst"), (4, "Pipeline Burst"),
    (5, "Synchronous"), (6, "Asynchronous")]

/-- The names of the kinds of error correction. -/
def correctionNames : List (Nat × String) :=
  [(0x01, "Other"), (0x02, "Unknown"), (0x03, "None"), (0x04, "Parity"), (0x05, "Single-bit ECC"),
    (0x06, "Multi-bit ECC")]

/-- The names of what is cached. -/
def systemNames : List (Nat × String) :=
  [(0x01, "Other"), (0x02, "Unknown"), (0x03, "Instruction"), (0x04, "Data"), (0x05, "Unified")]

/-- The names of the associativities. -/
def associativityNames : List (Nat × String) :=
  [(0x01, "Other"), (0x02, "Unknown"), (0x03, "Direct Mapped"), (0x04, "2-way Set-associative"),
    (0x05, "4-way Set-associative"), (0x06, "Fully Associative"), (0x07, "8-way Set-associative"),
    (0x08, "16-way Set-associative"), (0x09, "12-way Set-associative"),
    (0x0a, "24-way Set-associative"), (0x0b, "32-way Set-associative"),
    (0x0c, "48-way Set-associative"), (0x0d, "64-way Set-associative"),
    (0x0e, "20-way Set-associative")]

def lines (cache : Cache) (length : Nat) : String :=
  String.join
    [Lines.field "Socket Designation" cache.socket.render,
      Lines.field "Configuration"
        ((if cache.isEnabled then "Enabled" else "Disabled") ++ ", " ++
          (if cache.isSocketed then "Socketed" else "Not Socketed") ++ ", Level " ++
          cache.level.repr),
      Lines.field "Operational Mode" cache.modeName,
      Lines.field "Location" cache.locationName,
      Lines.field "Installed Size" (Lines.bytes cache.installedBytes),
      Lines.field "Maximum Size" (Lines.bytes cache.maxBytes),
      Lines.heading "Supported SRAM Types",
      Lines.flagItems sramNames cache.supportedSram.toNat,
      Lines.heading "Installed SRAM Type",
      String.join ((Lines.flags sramNames cache.currentSram.toNat).map (" " ++ ·)),
      Lines.onlyIf (0x0F < length) <|
        Lines.field "Speed"
            (if cache.speed = 0 then "Unknown" else cache.speed.toNat.repr ++ " ns") ++
          Lines.field "Error Correction Type"
            (Lines.nameOf correctionNames cache.errorCorrection.toNat) ++
          Lines.field "System Type" (Lines.nameOf systemNames cache.systemType.toNat) ++
          Lines.field "Associativity" (Lines.nameOf associativityNames cache.associativity.toNat)]

end Cache

end Dmi
