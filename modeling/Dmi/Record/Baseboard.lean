/-
**Base Board Information (type 2).**

A board, what it can do, and the handles of the structures on it.
-/

import Dmi.Layout.Basic
import Dmi.Record.Lines
import Dmi.Value.Take

namespace Dmi

/-- Base Board Information. -/
structure Baseboard where
  manufacturer : Text
  product : Text
  version : Text
  serialNumber : Text
  assetTag : Text
  features : UInt8
  location : Text
  chassisHandle : UInt16
  boardType : UInt8
  objectHandles : List UInt16
  deriving DecidableEq, Repr

namespace Baseboard

def title : String := "BaseboardInfo"

def minSize : Nat := 0x08

def layout : Layout :=
  .ofFields
    [.text "Manufacturer", .text "Product", .text "Version", .text "SerialNumber",
      .text "AssetTag", .byte "BoardFeatures", .text "LocationInChassis", .word "ChassisHandle",
      .byte "BoardType", .list .handles]

/-- The handle that a list item holds. -/
def handleOf : Value → Except Error UInt16
  | .number .word handle => .ok handle
  | _ => .error (.misuse (.malformedItem .handles))

def take : Take Baseboard := do
  return {
    manufacturer := ← Take.text
    product := ← Take.text
    version := ← Take.text
    serialNumber := ← Take.text
    assetTag := ← Take.text
    features := ← Take.byte
    location := ← Take.text
    chassisHandle := ← Take.word
    boardType := ← Take.byte
    objectHandles := ← Take.listOf handleOf }

def values (board : Baseboard) : List Value :=
  [.text board.manufacturer, .text board.product, .text board.version, .text board.serialNumber,
    .text board.assetTag, .byte board.features, .text board.location, .word board.chassisHandle,
    .byte board.boardType, .list (board.objectHandles.map .word)]

/-- The names of the features. -/
def featureNames : List (Nat × String) :=
  [(0, "Board is a hosting board"), (1, "Board requires at least one daughter board"),
    (2, "Board is removable"), (3, "Board is replaceable"), (4, "Board is hot swappable")]

/-- The names of the types of boards. -/
def boardNames : List (Nat × String) :=
  [(0x01, "Unknown"), (0x02, "Other"), (0x03, "Server Blade"), (0x04, "Connectivity Switch"),
    (0x05, "System Management Module"), (0x06, "Processor Module"), (0x07, "I/O Module"),
    (0x08, "Memory Module"), (0x09, "Daughter board"), (0x0a, "Motherboard"),
    (0x0b, "Processor/Memory Module"), (0x0c, "Processor/IO Module"), (0x0d, "Interconnect board")]

def lines (board : Baseboard) : String :=
  String.join
    [Lines.field "Manufacturer" board.manufacturer.render,
      Lines.field "Product Name" board.product.render,
      Lines.field "Version" board.version.render,
      Lines.field "Serial Number" board.serialNumber.render,
      Lines.field "Asset Tag" board.assetTag.render,
      Lines.heading "Features",
      Lines.onlyIf (board.features = 0) " None",
      Lines.flagItems featureNames board.features.toNat,
      Lines.field "Location In Chassis" board.location.render,
      Lines.field "Chassis Handle" ("0x" ++ Hex.upper 4 board.chassisHandle.toNat),
      Lines.field "Type" (Lines.nameOf boardNames board.boardType.toNat),
      Lines.field "Contained Object Handles" board.objectHandles.length.repr,
      String.join (board.objectHandles.map fun handle =>
        Lines.item ("0x" ++ Hex.upper 4 handle.toNat))]

end Baseboard

end Dmi
