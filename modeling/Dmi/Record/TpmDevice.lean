/-
**TPM Device (type 43).**

A trusted platform module. Its vendor is up to four bytes of text, and its firmware revision is
packed differently before version 2 of the specification.
-/

import Dmi.Layout.Basic
import Dmi.Record.Lines
import Dmi.Text.Utf8
import Dmi.Value.Take

namespace Dmi

/-- TPM Device. -/
structure TpmDevice where
  /-- Text that ends at the first zero byte. -/
  vendorId : Block 4
  majorVersion : UInt8
  minorVersion : UInt8
  firmware1 : UInt32
  firmware2 : UInt32
  description : Text
  characteristics : UInt64
  oemInformation : UInt32
  deriving DecidableEq, Repr

namespace TpmDevice

def title : String := "TPMDevice"

def minSize : Nat := 0x1F

def layout : Layout :=
  .ofFields
    [.bytes "VendorID" 4, .byte "MajorSpecVersion", .byte "MinorSpecVersion",
      .dword "FirmwareVersion1", .dword "FirmwareVersion2", .text "Description",
      .qword "Characteristics", .dword "OEMDefined"]

def take : Take TpmDevice := do
  return {
    vendorId := ← Take.block 4
    majorVersion := ← Take.byte
    minorVersion := ← Take.byte
    firmware1 := ← Take.dword
    firmware2 := ← Take.dword
    description := ← Take.text
    characteristics := ← Take.qword
    oemInformation := ← Take.dword }

def values (tpm : TpmDevice) : List Value :=
  [.bytes tpm.vendorId.val, .byte tpm.majorVersion, .byte tpm.minorVersion, .dword tpm.firmware1,
    .dword tpm.firmware2, .text tpm.description, .qword tpm.characteristics,
    .dword tpm.oemInformation]

/-- The vendor, or nothing where the bytes are no text. -/
def vendor (tpm : TpmDevice) : String :=
  (Utf8.decode? (tpm.vendorId.val.takeWhile (· != 0))).getD ""

/-- The major and minor firmware revision. Version 1 has them in the two upper bytes, the major one
below; later versions in the upper and lower half. -/
def firmwareRevision (tpm : TpmDevice) : Nat × Nat :=
  let firmware := tpm.firmware1.toNat
  if tpm.majorVersion = 1 then (firmware / 0x10000 % 0x100, firmware / 0x1000000)
  else (firmware / 0x10000, firmware % 0x10000)

def characteristicNames : List (Nat × String) :=
  [(2, "TPM Device characteristics not supported"), (3, "Family configurable via firmware update"),
    (4, "Family configurable via platform software support"),
    (5, "Family configurable via OEM proprietary mechanism")]

def lines (tpm : TpmDevice) : String :=
  let revision := tpm.firmwareRevision
  String.join
    [Lines.field "Vendor ID" tpm.vendor,
      Lines.field "Specification Version"
        (tpm.majorVersion.toNat.repr ++ "." ++ tpm.minorVersion.toNat.repr),
      Lines.field "Firmware Revision" (revision.1.repr ++ "." ++ revision.2.repr),
      Lines.field "Description" tpm.description.render,
      Lines.heading "Characteristics",
      Lines.flagItems characteristicNames tpm.characteristics.toNat,
      Lines.field "OEM-specific Information" ("0x" ++ Hex.upper 8 tpm.oemInformation.toNat)]

end TpmDevice

end Dmi
