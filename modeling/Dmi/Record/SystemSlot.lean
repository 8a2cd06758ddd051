/-
**System Slots (type 9).**

A slot, what it can do, its bus address, and the bus functions that share it.
-/

import Dmi.Layout.Basic
import Dmi.Record.Lines
import Dmi.Value.Take

namespace Dmi

/-- The text of a bus address. The device is in bits 7 to 3 of its last byte and the function
below. -/
def busAddressText (segment : UInt16) (bus deviceFunction : UInt8) : String :=
  Hex.lower 4 segment.toNat ++ ":" ++ Hex.lower 2 bus.toNat ++ ":" ++
    Hex.lower 2 (deviceFunction.toNat / 8) ++ "." ++ Hex.lower 1 (deviceFunction.toNat % 8)

/-- A bus function that shares a slot. -/
structure PeerGroup where
  segment : UInt16
  bus : UInt8
  deviceFunction : UInt8
  width : UInt8
  deriving DecidableEq, Repr

namespace PeerGroup

/-- The text of a bus function. -/
def render (peer : PeerGroup) : String :=
  busAddressText peer.segment peer.bus peer.deviceFunction ++ " (Width " ++
    peer.width.toNat.repr ++ ")"

/-- The bus function that a list item holds. -/
def ofValue : Value → Except Error PeerGroup
  | .record values =>
    Take.run' (do
      return {
        segment := ← Take.word
        bus := ← Take.byte
        deviceFunction := ← Take.byte
        width := ← Take.byte }) values
  | _ => .error (.misuse (.malformedItem .peers))

/-- The list item of a bus function. -/
def value (peer : PeerGroup) : Value :=
  .record [.word peer.segment, .byte peer.bus, .byte peer.deviceFunction, .byte peer.width]

end PeerGroup

/-- System Slots. -/
structure SystemSlot where
  designation : Text
  type : UInt8
  busWidth : UInt8
  usage : UInt8
  slotLength : UInt8
  id : UInt16
  characteristics1 : UInt8
  characteristics2 : UInt8
  segment : UInt16
  bus : UInt8
  deviceFunction : UInt8
  baseWidth : UInt8
  peers : List PeerGroup
  information : UInt8
  physicalWidth : UInt8
  pitch : UInt16
  deriving DecidableEq, Repr

namespace SystemSlot

def title : String := "SystemSlots"

def minSize : Nat := 0x0B

def layout : Layout :=
  .ofFields
    [.text "SlotDesignation", .byte "SlotType", .byte "SlotDataBusWidth", .byte "CurrentUsage",
      .byte "SlotLength", .word "SlotID", .byte "SlotCharacteristics1",
      .byte "SlotCharacteristics2", .word "SegmentGroupNumber", .byte "BusNumber",
      .byte "DeviceFunctionNumber", .byte "DataBusWidth", .list .peers, .byte "SlotInformation",
      .byte "SlotPhysicalWidth", .word "SlotPitch"]

def take : Take SystemSlot := do
  return {
    designation := ← Take.text
    type := ← Take.byte
    busWidth := ← Take.byte
    usage := ← Take.byte
    slotLength := ← Take.byte
    id := ← Take.word
    characteristics1 := ← Take.byte
    characteristics2 := ← Take.byte
    segment := ← Take.word
    bus := ← Take.byte
    deviceFunction := ← Take.byte
    baseWidth := ← Take.byte
    peers := ← Take.listOf PeerGroup.ofValue
    information := ← Take.byte
    physicalWidth := ← Take.byte
    pitch := ← Take.word }

def values (slot : SystemSlot) : List Value :=
  [.text slot.designation, .byte slot.type, .byte slot.busWidth, .byte slot.usage,
    .byte slot.slotLength, .word slot.id, .byte slot.characteristics1, .byte slot.characteristics2,
    .word slot.segment, .byte slot.bus, .byte slot.deviceFunction, .byte slot.baseWidth,
    .list (slot.peers.map PeerGroup.value), .byte slot.information, .byte slot.physicalWidth,
    .word slot.pitch]

/-- The names of the characteristics in the first byte. -/
def characteristicNames1 : List (Nat × String) :=
  [(0, "Unknown"), (1, "5.0 V is provided"), (2, "3.3 V is provided"), (3, "Opening is shared"),
    (4, "PC Card-16 is supported"), (5, "Cardbus is supported"), (6, "Zoom Video is supported"),
    (7, "Modem ring resume is supported")]

/-- The names of the characteristics in the second byte. -/
def characteristicNames2 : List (Nat × String) :=
  [(0, "PME signal is supported"), (1, "Hot-plug devices are supported"),
    (2, "SMBus signal is supported"), (3, "PCIe slot bifurcation is supported"),
    (4, "Async/surprise removal is supported"), (5, "Flexbus slot, CXL 1.0 capable"),
    (6, "Flexbus slot, CXL 2.0 capable"), (7, "Flexbus slot, CXL 3.0 capable")]

def typeNames : List (Nat × String) :=
  [(0x01, "Other"), (0x02, "Unknown"), (0x03, "ISA"), (0x04, "MCA"), (0x05, "EISA"), (0x06, "PCI"),
    (0x07, "PC Card (PCMCIA)"), (0x08, "VLB"), (0x09, "Proprietary"), (0x0a, "Processor Card"),
    (0x0b, "Proprietary Memory Card"), (0x0c, "I/O Riser Card"), (0x0d, "NuBus"), (0x0e, "PCI-66"),
    (0x0f, "AGP"), (0x10, "AGP 2x"), (0x11, "AGP 4x"), (0x12, "PCI-X"), (0x13, "AGP 8x"),
    (0x14, "M.2 Socket 1-DP"), (0x15, "M.2 Socket 1-SD"), (0x16, "M.2 Socket 2"),
    (0x17, "M.2 Socket 3"), (0x18, "MXM Type I"), (0x19, "MXM Type II"), (0x1a, "MXM Type III"),
    (0x1b, "MXM Type III-HE"), (0x1c, "MXM Type IV"), (0x1d, "MXM 3.0 Type A"),
    (0x1e, "MXM 3.0 Type B"), (0x1f, "PCI Express 2 SFF-8639 (U.2)"),
    (0x20, "PCI Express 3 SFF-8639 (U.2)"),
    (0x21, "PCI Express Mini 52-pin with bottom-side keep-outs"),
    (0x22, "PCI Express Mini 52-pin without bottom-side keep-outs"),
      (0x23, "PCI Express Mini 76-pin"),
    (0x24, "PCI Express 4 SFF-8639 (U.2)"), (0x25, "PCI Express 5 SFF-8639 (U.2)"),
    (0x26, "OCP NIC 3.0 Small Form Factor (SFF)"), (0x27, "OCP NIC 3.0 Large Form Factor (LFF)"),
    (0x28, "OCP NIC Prior to 3.0"), (0x30, "CXL FLexbus 1.0"), (0xa0, "PC-98/C20"),
    (0xa1, "PC-98/C24"), (0xa2, "PC-98/E"), (0xa3, "PC-98/Local Bus"), (0xa4, "PC-98/Card"),
    (0xa5, "PCI Express"), (0xa6, "PCI Express x1"), (0xa7, "PCI Express x2"),
    (0xa8, "PCI Express x4"), (0xa9, "PCI Express x8"), (0xaa, "PCI Express x16"),
    (0xab, "PCI Express 2"), (0xac, "PCI Express 2 x1"), (0xad, "PCI Express 2 x2"),
    (0xae, "PCI Express 2 x4"), (0xaf, "PCI Express 2 x8"), (0xb0, "PCI Express 2 x16"),
    (0xb1, "PCI Express 3"), (0xb2, "PCI Express 3 x1"), (0xb3, "PCI Express 3 x2"),
    (0xb4, "PCI Express 3 x4"), (0xb5, "PCI Express 3 x8"), (0xb6, "PCI Express 3 x16"),
    (0xb8, "PCI Express 4"), (0xb9, "PCI Express 4 x1"), (0xba, "PCI Express 4 x2"),
    (0xbb, "PCI Express 4 x4"), (0xbc, "PCI Express 4 x8"), (0xbd, "PCI Express 4 x16"),
    (0xbe, "PCI Express 5"), (0xbf, "PCI Express 5 x1"), (0xc0, "PCI Express 5 x2"),
    (0xc1, "PCI Express 5 x4"), (0xc2, "PCI Express 5 x8"), (0xc3, "PCI Express 5 x16"),
    (0xc4, "PCI Express 6+"), (0xc5, "EDSFF E1"), (0xc6, "EDSFF E3")]

/-- The names of the widths. -/
def widthNames : List String :=
  ["Other", "Unknown", "8-bit", "16-bit", "32-bit", "64-bit", "128-bit", "x1", "x2", "x4", "x8",
    "x12", "x16", "x32"]

/-- The names of the usages. -/
def usageNames : List String :=
  ["Other", "Unknown", "Available", "In Use", "Unavailable"]

/-- The names of the lengths. -/
def lengthNames : List String :=
  ["Other", "Unknown", "Short", "Long", "2.5\" drive form factor", "3.5\" drive form factor"]

def lines (slot : SystemSlot) (length : Nat) : String :=
  String.join
    [Lines.field "Designation" slot.designation.render,
      Lines.field "Type" (Lines.nameOf typeNames slot.type.toNat),
      Lines.field "Data Bus Width" (Lines.nth widthNames slot.busWidth.toNat),
      Lines.field "Current Usage" (Lines.nth usageNames slot.usage.toNat),
      Lines.field "Length" (Lines.nth lengthNames slot.slotLength.toNat),
      Lines.field "ID" slot.id.toNat.repr,
      Lines.heading "Characteristics",
      Lines.onlyIf (slot.characteristics1 = 0 ∧ slot.characteristics2 = 0) " None",
      Lines.flagItems characteristicNames1 slot.characteristics1.toNat,
      Lines.onlyIf (0x0D ≤ length) <|
        Lines.flagItems characteristicNames2 slot.characteristics2.toNat,
      Lines.onlyIf (0x11 ≤ length) <|
        Lines.field "Bus Address" (busAddressText slot.segment slot.bus slot.deviceFunction),
      Lines.onlyIf (0x13 ≤ length) <|
        Lines.field "Data Bus Width (Base)" slot.baseWidth.toNat.repr ++
          Lines.field "Peer Devices" slot.peers.length.repr ++
          String.join (slot.peers.map fun peer => Lines.item peer.render)]

end SystemSlot

end Dmi
