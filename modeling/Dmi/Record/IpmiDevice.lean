/-
**IPMI Device Information (type 38).**

A management controller and the address of its registers. The lowest bit of the base address says
whether it lies in the I/O space; the lowest bit of the address proper is in the modifier.
-/

import Dmi.Layout.Basic
import Dmi.Record.Lines
import Dmi.Value.Take

namespace Dmi

/-- IPMI Device Information. -/
structure IpmiDevice where
  interfaceType : UInt8
  /-- Major in bits 7 to 4 and minor below. -/
  revision : UInt8
  targetAddress : UInt8
  /-- FFh if there is none. -/
  storageAddress : UInt8
  baseAddress : UInt64
  addressModifier : UInt8
  interruptNumber : UInt8
  deriving DecidableEq, Repr

namespace IpmiDevice

def title : String := "IPMIDeviceInfo"

def minSize : Nat := 0x10

def layout : Layout :=
  .ofFields
    [.byte "InterfaceType", .byte "IPMISpecificationRevision", .byte "I2CTargetAddress",
      .byte "NVStorageDeviceAddress", .qword "BaseAddress", .byte "BaseAddressModifier",
      .byte "InterruptNumber"]

def take : Take IpmiDevice := do
  return {
    interfaceType := ← Take.byte
    revision := ← Take.byte
    targetAddress := ← Take.byte
    storageAddress := ← Take.byte
    baseAddress := ← Take.qword
    addressModifier := ← Take.byte
    interruptNumber := ← Take.byte }

def values (ipmi : IpmiDevice) : List Value :=
  [.byte ipmi.interfaceType, .byte ipmi.revision, .byte ipmi.targetAddress,
    .byte ipmi.storageAddress, .qword ipmi.baseAddress, .byte ipmi.addressModifier,
    .byte ipmi.interruptNumber]

/-- Whether the base address lies in the I/O space. -/
def isIoSpace (ipmi : IpmiDevice) : Bool :=
  ipmi.baseAddress.toNat % 2 = 1

/-- The base address with its lowest bit from the modifier. -/
def address (ipmi : IpmiDevice) : Nat :=
  ipmi.baseAddress.toNat / 2 * 2 + ipmi.addressModifier.toNat / 0x10 % 2

/-- The names of the interfaces, counted from 0. -/
def interfaceNames : List String :=
  ["Unknown", "KCS (Keyboard Control Style)", "SMIC (Server Management Interface Chip)",
    "BT (Block Transfer)", "SSIF (SMBus System Interface)"]

/-- The distance of the registers. -/
def spacingName (ipmi : IpmiDevice) : String :=
  match ipmi.addressModifier.toNat / 0x40 with
  | 0 => "Successive Byte Boundaries"
  | 1 => "32-bit Boundaries"
  | 2 => "16-byte Boundaries"
  | _ => Lines.outOfRange

def lines (ipmi : IpmiDevice) (length : Nat) : String :=
  let revision := ipmi.revision.toNat
  String.join
    [Lines.field "Interface Type" (interfaceNames.getD ipmi.interfaceType.toNat Lines.outOfRange),
      Lines.field "Specification Version" ((revision / 16).repr ++ "." ++ (revision % 16).repr),
      Lines.field "I2C Target Address" ("0x" ++ Hex.lower 2 (ipmi.targetAddress.toNat / 2)),
      if ipmi.storageAddress = 0xFF then Lines.field "NV Storage Device" "Not Present"
      else Lines.field "NV Storage Device Address" ipmi.storageAddress.toNat.repr,
      Lines.field "Base Address"
        ("0x" ++ Hex.upper 16 ipmi.address ++
          (if ipmi.isIoSpace then " (I/O)" else " (Memory-mapped)")),
      Lines.onlyIf (0x12 ≤ length) <|
        Lines.field "Register Spacing" ipmi.spacingName ++
          Lines.field "Interrupt Number"
            (if ipmi.interruptNumber = 0 then "Unspecified"
            else ipmi.interruptNumber.toNat.repr)]

end IpmiDevice

end Dmi
