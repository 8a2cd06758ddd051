/-
**System Information (type 1).**

The machine's maker, model and identity. Of the sixteen bytes of the UUID the first three groups are
stored with the least byte first; all zero and all ones say that there is none.
-/

import Dmi.Layout.Basic
import Dmi.Record.Lines
import Dmi.Value.Take

namespace Dmi

/-- A UUID as it is stored. -/
abbrev Uuid := Block 16

/-- The positions of the bytes of a UUID in the order of its text. -/
def Uuid.groups : List (List Nat) :=
  [[3, 2, 1, 0], [5, 4], [7, 6], [8, 9], [10, 11, 12, 13, 14, 15]]

/-- The text of a UUID. -/
def Uuid.render (uuid : Uuid) : String :=
  if uuid.val.all (· == 0) then "Not Settable"
  else if uuid.val.all (· == 0xFF) then "Not Present"
  else
    String.intercalate "-" <| groups.map fun group =>
      String.join (group.map fun position => Hex.lower 2 (uuid.val.getD position 0).toNat)

/-- System Information. -/
structure System where
  manufacturer : Text
  productName : Text
  version : Text
  serialNumber : Text
  uuid : Uuid
  wakeUpType : UInt8
  skuNumber : Text
  family : Text
  deriving DecidableEq, Repr

namespace System

def title : String := "SystemInfo"

def minSize : Nat := 0x08

def layout : Layout :=
  .ofFields
    [.text "Manufacturer", .text "ProductName", .text "Version", .text "SerialNumber",
      .bytes "UUID" 16, .byte "WakeupType", .text "SKUNumber", .text "Family"]

def take : Take System := do
  return {
    manufacturer := ← Take.text
    productName := ← Take.text
    version := ← Take.text
    serialNumber := ← Take.text
    uuid := ← Take.block 16
    wakeUpType := ← Take.byte
    skuNumber := ← Take.text
    family := ← Take.text }

def values (system : System) : List Value :=
  [.text system.manufacturer, .text system.productName, .text system.version,
    .text system.serialNumber, .bytes system.uuid.val, .byte system.wakeUpType,
    .text system.skuNumber, .text system.family]

/-- The names of the events that switch the machine on. -/
def wakeUpNames : List (Nat × String) :=
  [(0x00, "Reserved"), (0x01, "Other"), (0x02, "Unknown"), (0x03, "APM Timer"),
    (0x04, "Modem Ring"),
    (0x05, "LAN Remote"), (0x06, "Power Switch"), (0x07, "PCI PME#"), (0x08, "AC Power Restored")]

def lines (system : System) (length : Nat) : String :=
  String.join
    [Lines.field "Manufacturer" system.manufacturer.render,
      Lines.field "Product Name" system.productName.render,
      Lines.field "Version" system.version.render,
      Lines.field "Serial Number" system.serialNumber.render,
      Lines.onlyIf (0x19 ≤ length) <|
        Lines.field "UUID" system.uuid.render ++
          Lines.field "Wake-up Type" (Lines.nameOf wakeUpNames system.wakeUpType.toNat),
      Lines.onlyIf (0x1B ≤ length) <|
        Lines.field "SKU Number" system.skuNumber.render ++
          Lines.field "Family" system.family.render]

end System

end Dmi
