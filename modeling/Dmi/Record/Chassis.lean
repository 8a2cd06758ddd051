/-
**Chassis Information (type 3).**

An enclosure, its state, and how many of which boards or structures it can contain. Bit 7 of the
type byte is the lock.
-/

import Dmi.Record.Baseboard
import Dmi.TypeCode

namespace Dmi

/-- What a chassis contains, and how often. -/
structure ContainedElement where
  /-- A structure type with bit 7 set, or a board type. -/
  type : UInt8
  least : UInt8
  most : UInt8
  deriving DecidableEq, Repr

namespace ContainedElement

/-- The text of an element. -/
def render (element : ContainedElement) : String :=
  let code := element.type &&& 0x7F
  let name :=
    if element.type &&& 0x80 ≠ 0 then (TypeCode.mk code).name
    else Lines.nameOf Baseboard.boardNames code.toNat
  name ++ " " ++ element.least.toNat.repr ++ "-" ++ element.most.toNat.repr

/-- The element that a list item holds. -/
def ofValue : Value → Except Error ContainedElement
  | .record values =>
    Take.run' (do return { type := ← Take.byte, least := ← Take.byte, most := ← Take.byte }) values
  | _ => .error (.misuse (.malformedItem .elements))

/-- The list item of an element. -/
def value (element : ContainedElement) : Value :=
  .record [.byte element.type, .byte element.least, .byte element.most]

end ContainedElement

/-- Chassis Information. -/
structure Chassis where
  manufacturer : Text
  /-- The type in bits 6 to 0 and the lock in bit 7. -/
  type : UInt8
  version : Text
  serialNumber : Text
  assetTag : Text
  bootUpState : UInt8
  powerSupplyState : UInt8
  thermalState : UInt8
  securityStatus : UInt8
  oemInformation : UInt32
  /-- Rack units, zero if nothing is said. -/
  height : UInt8
  powerCords : UInt8
  containedElements : List ContainedElement
  skuNumber : Text
  deriving DecidableEq, Repr

namespace Chassis

def title : String := "ChassisInfo"

def minSize : Nat := 0x09

def layout : Layout :=
  .ofFields
    [.text "Manufacturer", .byte "Type", .text "Version", .text "SerialNumber",
      .text "AssetTagNumber", .byte "BootupState", .byte "PowerSupplyState",
      .byte "ThermalState", .byte "SecurityStatus", .dword "OEMInfo", .byte "Height",
      .byte "NumberOfPowerCords", .list .elements, .text "SKUNumber"]

def take : Take Chassis := do
  return {
    manufacturer := ← Take.text
    type := ← Take.byte
    version := ← Take.text
    serialNumber := ← Take.text
    assetTag := ← Take.text
    bootUpState := ← Take.byte
    powerSupplyState := ← Take.byte
    thermalState := ← Take.byte
    securityStatus := ← Take.byte
    oemInformation := ← Take.dword
    height := ← Take.byte
    powerCords := ← Take.byte
    containedElements := ← Take.listOf ContainedElement.ofValue
    skuNumber := ← Take.text }

def values (chassis : Chassis) : List Value :=
  [.text chassis.manufacturer, .byte chassis.type, .text chassis.version,
    .text chassis.serialNumber, .text chassis.assetTag, .byte chassis.bootUpState,
    .byte chassis.powerSupplyState, .byte chassis.thermalState, .byte chassis.securityStatus,
    .dword chassis.oemInformation, .byte chassis.height, .byte chassis.powerCords,
    .list (chassis.containedElements.map ContainedElement.value), .text chassis.skuNumber]

/-- Whether there is a lock. -/
def hasLock (chassis : Chassis) : Bool :=
  chassis.type &&& 0x80 ≠ 0

def typeNames : List String :=
  ["Other", "Unknown", "Desktop", "Low Profile Desktop", "Pizza Box", "Mini Tower", "Tower",
    "Portable", "Laptop", "Notebook", "Hand Held", "Docking Station", "All In One", "Sub Notebook",
    "Space-saving", "Lunch Box", "Main Server Chassis", "Expansion Chassis", "Sub Chassis",
    "Bus Expansion Chassis", "Peripheral Chassis", "RAID Chassis", "Rack Mount Chassis",
    "Sealed-case PC", "Multi-system", "CompactPCI", "AdvancedTCA", "Blade", "Blade Chassis",
      "Tablet",
    "Convertible", "Detachable", "IoT Gateway", "Embedded PC", "Mini PC", "Stick PC"]

def stateNames : List (Nat × String) :=
  [(0x01, "Other"), (0x02, "Unknown"), (0x03, "Safe"), (0x04, "Warning"), (0x05, "Critical"),
    (0x06, "Non-recoverable")]

/-- The names of the security states. -/
def securityNames : List (Nat × String) :=
  [(0x01, "Other"), (0x02, "Unknown"), (0x03, "None"), (0x04, "External Interface Locked Out"),
    (0x05, "External Interface Enabled")]

/-- The name of the type. -/
def typeName (chassis : Chassis) : String :=
  Lines.nth typeNames (chassis.type &&& 0x7F).toNat

/-- A count that is not specified when it is zero. -/
def countText (count : UInt8) (unit : String) : String :=
  if count = 0 then "Unspecified" else count.toNat.repr ++ unit

def lines (chassis : Chassis) (length : Nat) : String :=
  let elements := chassis.containedElements
  let state (label : String) (code : UInt8) :=
    Lines.field label (Lines.nameOf stateNames code.toNat)
  String.join
    [Lines.field "Manufacturer" chassis.manufacturer.render,
      Lines.field "Type" chassis.typeName,
      Lines.field "Lock" (if chassis.hasLock then "Present" else "Not Present"),
      Lines.field "Version" chassis.version.render,
      Lines.field "Serial Number" chassis.serialNumber.render,
      Lines.field "Asset Tag" chassis.assetTag.render,
      Lines.onlyIf (0x0D ≤ length) <|
        state "Boot-up State" chassis.bootUpState ++
          state "Power Supply State" chassis.powerSupplyState ++
          state "Thermal State" chassis.thermalState ++
          Lines.field "Security Status" (Lines.nameOf securityNames chassis.securityStatus.toNat),
      Lines.onlyIf (0x11 ≤ length) <|
        Lines.field "OEM Information" ("0x" ++ Hex.upper 8 chassis.oemInformation.toNat),
      Lines.onlyIf (0x13 ≤ length) <|
        Lines.field "Height" (countText chassis.height " U") ++
          Lines.field "Number Of Power Cords" (countText chassis.powerCords ""),
      Lines.onlyIf (0x15 ≤ length) <|
        Lines.field "Contained Elements" elements.length.repr ++
          String.join (elements.map fun element => Lines.item element.render),
      Lines.onlyIf (0x15 + elements.length * 3 < length) <|
        Lines.field "SKU Number" chassis.skuNumber.render]

end Chassis

end Dmi
