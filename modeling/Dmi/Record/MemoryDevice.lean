/-
**Memory Device (type 17).**

A memory module. Its size is a word whose top bit asks for kB in place of MB; the word 7FFFh defers
to a doubleword in MB, which longer structures have.
-/

import Dmi.Layout.Basic
import Dmi.Record.Lines
import Dmi.Value.Take

namespace Dmi

/-- Memory Device. -/
structure MemoryDevice where
  arrayHandle : UInt16
  errorHandle : UInt16
  /-- Bits, FFFFh if unknown. -/
  totalWidth : UInt16
  dataWidth : UInt16
  size : UInt16
  formFactor : UInt8
  deviceSet : UInt8
  deviceLocator : Text
  bankLocator : Text
  type : UInt8
  typeDetail : UInt16
  /-- MT/s, FFFFh for the speed in `extendedSpeed`. -/
  speed : UInt16
  manufacturer : Text
  serialNumber : Text
  assetTag : Text
  partNumber : Text
  /-- The rank in bits 3 to 0. -/
  attributes : UInt8
  /-- MB. -/
  extendedSize : UInt32
  configuredSpeed : UInt16
  /-- Millivolts, like the two voltages below. -/
  minVoltage : UInt16
  maxVoltage : UInt16
  configuredVoltage : UInt16
  technology : UInt8
  operatingModes : UInt16
  firmwareVersion : Text
  moduleManufacturer : UInt16
  moduleProduct : UInt16
  controllerManufacturer : UInt16
  controllerProduct : UInt16
  nonVolatileSize : UInt64
  volatileSize : UInt64
  cacheSize : UInt64
  logicalSize : UInt64
  extendedSpeed : UInt32
  extendedConfiguredSpeed : UInt32
  deriving DecidableEq, Repr

namespace MemoryDevice

def title : String := "MemoryDevice"

def minSize : Nat := 0x15

def layout : Layout :=
  .ofFields
    [.word "PhysicalMemoryArrayHandle", .word "MemoryErrorInformationHandle", .word "TotalWidth",
      .word "DataWidth", .word "Size", .byte "FormFactor", .byte "DeviceSet",
      .text "DeviceLocator", .text "BankLocator", .byte "MemoryType", .word "TypeDetail",
      .word "Speed", .text "Manufacturer", .text "SerialNumber", .text "AssetTag",
      .text "PartNumber", .byte "Attributes", .dword "ExtendedSize",
      .word "ConfiguredMemorySpeed", .word "MinimumVoltage", .word "MaximumVoltage",
      .word "ConfiguredVoltage", .byte "MemoryTechnology", .word "MemoryOperatingModeCapability",
      .text "FirmwareVersion", .word "ModuleManufacturerID", .word "ModuleProductID",
      .word "MemorySubsystemControllerManufacturerID", .word "MemorySubsystemControllerProductID",
      .qword "NonVolatileSize", .qword "VolatileSize", .qword "CacheSize", .qword "LogicalSize",
      .dword "ExtendedSpeed", .dword "ExtendedConfiguredMemorySpeed"]

def take : Take MemoryDevice := do
  return {
    arrayHandle := ← Take.word
    errorHandle := ← Take.word
    totalWidth := ← Take.word
    dataWidth := ← Take.word
    size := ← Take.word
    formFactor := ← Take.byte
    deviceSet := ← Take.byte
    deviceLocator := ← Take.text
    bankLocator := ← Take.text
    type := ← Take.byte
    typeDetail := ← Take.word
    speed := ← Take.word
    manufacturer := ← Take.text
    serialNumber := ← Take.text
    assetTag := ← Take.text
    partNumber := ← Take.text
    attributes := ← Take.byte
    extendedSize := ← Take.dword
    configuredSpeed := ← Take.word
    minVoltage := ← Take.word
    maxVoltage := ← Take.word
    configuredVoltage := ← Take.word
    technology := ← Take.byte
    operatingModes := ← Take.word
    firmwareVersion := ← Take.text
    moduleManufacturer := ← Take.word
    moduleProduct := ← Take.word
    controllerManufacturer := ← Take.word
    controllerProduct := ← Take.word
    nonVolatileSize := ← Take.qword
    volatileSize := ← Take.qword
    cacheSize := ← Take.qword
    logicalSize := ← Take.qword
    extendedSpeed := ← Take.dword
    extendedConfiguredSpeed := ← Take.dword }

def values (memory : MemoryDevice) : List Value :=
  [.word memory.arrayHandle, .word memory.errorHandle, .word memory.totalWidth,
    .word memory.dataWidth, .word memory.size, .byte memory.formFactor, .byte memory.deviceSet,
    .text memory.deviceLocator, .text memory.bankLocator, .byte memory.type,
    .word memory.typeDetail, .word memory.speed, .text memory.manufacturer,
    .text memory.serialNumber, .text memory.assetTag, .text memory.partNumber,
    .byte memory.attributes, .dword memory.extendedSize, .word memory.configuredSpeed,
    .word memory.minVoltage, .word memory.maxVoltage, .word memory.configuredVoltage,
    .byte memory.technology, .word memory.operatingModes, .text memory.firmwareVersion,
    .word memory.moduleManufacturer, .word memory.moduleProduct,
    .word memory.controllerManufacturer, .word memory.controllerProduct,
    .qword memory.nonVolatileSize, .qword memory.volatileSize, .qword memory.cacheSize,
    .qword memory.logicalSize, .dword memory.extendedSpeed, .dword memory.extendedConfiguredSpeed]

/-- The installed size in bytes, in a structure of `length` bytes; none if there is no module or its
size is unknown. -/
def bytes? (memory : MemoryDevice) (length : Nat) : Option Nat :=
  let size := memory.size.toNat
  if size = 0 ∨ size = 0xFFFF then none
  else if size = 0x7FFF ∧
    0x20 ≤ length then some (memory.extendedSize.toNat % 0x80000000 * 0x100000)
  else if 0x8000 ≤ size then some (size % 0x8000 * 0x400)
  else some (size * 0x100000)

/-- The rank, zero if unknown. -/
def rank (memory : MemoryDevice) : Nat :=
  memory.attributes.toNat % 16

/-- The names of the type details. -/
def detailNames : List (Nat × String) :=
  [(1, "Other"), (2, "Unknown"), (3, "Fast-paged"), (4, "Static Column"), (5, "Pseudo-static"),
    (6, "RAMBus"), (7, "Synchronous"), (8, "CMOS"), (9, "EDO"), (10, "Window DRAM"),
    (11, "Cache DRAM"), (12, "Non-Volatile"), (13, "Registered (Buffered)"),
    (14, "Unbuffered (Unregistered)"), (15, "LRDIMM")]

/-- The names of the form factors. -/
def formNames : List String :=
  ["Other", "Unknown", "SIMM", "SIP", "Chip", "DIP", "ZIP", "Proprietary Card", "DIMM", "TSOP",
    "Row Of Chips", "RIMM", "SODIMM", "SRIMM", "FB-DIMM", "Die", "CAMM"]

def typeNames : List String :=
  ["Other", "Unknown", "DRAM", "EDRAM", "VRAM", "SRAM", "RAM", "ROM", "Flash", "EEPROM", "FEPROM",
    "EPROM", "CDRAM", "3DRAM", "SDRAM", "SGRAM", "RDRAM", "DDR", "DDR2", "DDR2 FB-DIMM", "Reserved",
    "Reserved", "Reserved", "DDR3", "FBD2", "DDR4", "LPDDR", "LPDDR2", "LPDDR3", "LPDDR4",
    "Logical non-volatile device", "HBM", "HBM2", "DDR5", "LPDDR5", "HBM3"]

/-- The names of the technologies. -/
def technologyNames : List String :=
  ["Other", "Unknown", "DRAM", "NVDIMM-N", "NVDIMM-F", "NVDIMM-P", "Intel Optane persistent memory",
    "MRDIMM"]

/-! ### The report -/

/-- A width in bits. -/
def widthText (width : UInt16) : String :=
  if width = 0 ∨ width = 0xFFFF then "Unknown" else width.toNat.repr ++ " bits"

/-- The digits of a number, at least three of them. -/
def threeDigits (number : Nat) : String :=
  String.ofList (List.leftpad 3 '0' (Nat.toDigits 10 number))

/-- A voltage in volts, with one decimal if that is exact and three otherwise. -/
def voltageText (millivolts : UInt16) : String :=
  let number := millivolts.toNat
  if number = 0 then "Unknown"
  else if number % 100 = 0 then
    (number / 1000).repr ++ "." ++ (number % 1000 / 100).repr ++ " V"
  else (number / 1000).repr ++ "." ++ threeDigits (number % 1000) ++ " V"

/-- A transfer rate; FFFFh defers to the doubleword. -/
def speedText (speed : UInt16) (extended : UInt32) : String :=
  let rate := if speed = 0xFFFF then extended.toNat % 0x80000000 else speed.toNat
  if rate = 0 then "Unknown" else rate.repr ++ " MT/s"

/-- The handle of the structure with the last error. -/
def errorText (handle : UInt16) : String :=
  if handle = 0xFFFE then "Not Provided"
  else if handle = 0xFFFF then "No Error"
  else "0x" ++ Hex.upper 4 handle.toNat

/-- The installed size. -/
def sizeText (memory : MemoryDevice) (length : Nat) : String :=
  if memory.size = 0 then "No Module Installed"
  else match memory.bytes? length with
    | none => "Unknown"
    | some bytes => Lines.bytes bytes

/-- The set of modules that the module belongs to. -/
def setText (deviceSet : UInt8) : String :=
  if deviceSet = 0 then "None"
  else if deviceSet = 0xFF then "Unknown"
  else deviceSet.toNat.repr

def lines (memory : MemoryDevice) (length : Nat) : String :=
  String.join
    [Lines.field "Array Handle" ("0x" ++ Hex.upper 4 memory.arrayHandle.toNat),
      Lines.field "Error Information Handle" (errorText memory.errorHandle),
      Lines.field "Total Width" (widthText memory.totalWidth),
      Lines.field "Data Width" (widthText memory.dataWidth),
      Lines.field "Size" (memory.sizeText length),
      Lines.field "Form Factor" (Lines.nth formNames memory.formFactor.toNat),
      Lines.field "Set" (setText memory.deviceSet),
      Lines.field "Locator" memory.deviceLocator.render,
      Lines.field "Bank Locator" memory.bankLocator.render,
      Lines.field "Type" (Lines.nth typeNames memory.type.toNat),
      Lines.heading "Type Detail",
      Lines.onlyIf (memory.typeDetail.toNat / 2 = 0) " None",
      Lines.flagItems detailNames memory.typeDetail.toNat,
      Lines.onlyIf (0x17 ≤ length) <|
        Lines.field "Speed" (speedText memory.speed memory.extendedSpeed),
      Lines.onlyIf (0x1B ≤ length) <|
        Lines.field "Manufacturer" memory.manufacturer.render ++
          Lines.field "Serial Number" memory.serialNumber.render ++
          Lines.field "Asset Tag" memory.assetTag.render ++
          Lines.field "Part Number" memory.partNumber.render,
      Lines.onlyIf (0x1C ≤ length) <|
        Lines.field "Rank" (if memory.rank = 0 then "Unknown" else memory.rank.repr),
      Lines.onlyIf (0x22 ≤ length) <|
        Lines.field "Configured Memory Speed"
          (speedText memory.configuredSpeed memory.extendedConfiguredSpeed),
      Lines.onlyIf (0x28 ≤ length) <|
        Lines.field "Minimum Voltage" (voltageText memory.minVoltage) ++
          Lines.field "Maximum Voltage" (voltageText memory.maxVoltage) ++
          Lines.field "Configured Voltage" (voltageText memory.configuredVoltage),
      Lines.onlyIf (0x29 ≤ length) <|
        Lines.field "Memory Technology" (Lines.nth technologyNames memory.technology.toNat)]

end MemoryDevice

end Dmi
