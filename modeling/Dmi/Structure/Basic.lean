/-
**Structures.**

A structure is a header of four bytes and a body. The header's length byte counts the header and the
formatted section; a structure built by hand may say anything there, so the real size is a function
of the body.
-/

import Dmi.Body.Basic
import Dmi.LittleEndian
import Dmi.Text.Hex
import Dmi.TypeCode

namespace Dmi

/-- The first four bytes of a structure. -/
structure Header where
  type : TypeCode
  /-- The declared length of header and formatted section. -/
  length : UInt8
  handle : UInt16
  deriving DecidableEq, Repr

namespace Header

/-- The number of bytes of a header. -/
def size : Nat := 4

/-- The bytes of a header. -/
def bytes (header : Header) : List UInt8 :=
  [header.type.code, header.length] ++ LittleEndian.digits 2 header.handle.toNat

/-- The header that some bytes start with. -/
def ofBytes? : List UInt8 → Option Header
  | type :: length :: low :: high :: _ =>
    some ⟨⟨type⟩, length, UInt16.ofNat (LittleEndian.value [low, high])⟩
  | _ => none

/-- The length of the formatted section that the header declares; none at all when it declares less
than itself. -/
def formattedSize (header : Header) : Nat :=
  header.length.toNat - size

/-- The two lines that open the text of every structure. -/
def render (header : Header) : String :=
  "Handle 0x" ++ Hex.upper 4 header.handle.toNat ++ ", DMI type " ++
    header.type.code.toNat.repr ++ ", " ++ header.length.toNat.repr ++ " bytes\n" ++
    header.type.name

@[simp] theorem length_bytes (header : Header) : header.bytes.length = size := rfl

end Header

/-- One structure of a table. -/
structure Structure where
  header : Header
  body : Body
  deriving DecidableEq, Repr

namespace Structure

/-- The type code of the header. -/
def type (s : Structure) : TypeCode :=
  s.header.type

/-- The number by which other structures refer to this one. -/
def handle (s : Structure) : UInt16 :=
  s.header.handle

/-- The bytes of header and formatted section that are really there. -/
def size (s : Structure) : Nat :=
  s.body.size + Header.size

/-- The structure with the first `size` bytes of its data. The header stays. -/
def cut (s : Structure) (size : Nat) : Structure :=
  { s with body := s.body.cut size }

end Structure

end Dmi
