/-
**Widths of integer fields.**

The specification knows four integer fields: BYTE, WORD, DWORD and QWORD. `Width.Number` is the
machine word of each, and the three functions below pass between machine words and naturals, so that
a statement about all four widths needs one proof. Main statements:

* `number_toNat` — a machine word is determined by its natural;
* `toNat_number` — a natural becomes a machine word modulo the limit of its size;
* `number_value_digits`, `digits_number_value` — a machine word and its bytes determine each other.
-/

import Dmi.LittleEndian

namespace Dmi

/-- The width of an integer field. -/
inductive Width where
  | byte
  | word
  | dword
  | qword
  deriving DecidableEq, Repr

namespace Width

/-- The number of bytes of a field of this width. -/
def size : Width → Nat
  | byte => 1
  | word => 2
  | dword => 4
  | qword => 8

/-- The machine word that holds a field of this width. -/
@[reducible] def Number : Width → Type
  | byte => UInt8
  | word => UInt16
  | dword => UInt32
  | qword => UInt64

/-- The machine word as a natural. -/
def toNat : {width : Width} → width.Number → Nat
  | byte, number => UInt8.toNat number
  | word, number => UInt16.toNat number
  | dword, number => UInt32.toNat number
  | qword, number => UInt64.toNat number

/-- The machine word of a natural, reduced to the width. -/
def number : (width : Width) → Nat → width.Number
  | byte, n => UInt8.ofNat n
  | word, n => UInt16.ofNat n
  | dword, n => UInt32.ofNat n
  | qword, n => UInt64.ofNat n

theorem toNat_lt {width : Width} (number : width.Number) :
    toNat number < LittleEndian.limit width.size := by
  cases width
  · exact UInt8.toNat_lt number
  · exact UInt16.toNat_lt number
  · exact UInt32.toNat_lt number
  · exact UInt64.toNat_lt number

theorem number_toNat {width : Width} (number : width.Number) :
    width.number (toNat number) = number := by
  cases width
  · exact UInt8.ofNat_toNat
  · exact UInt16.ofNat_toNat
  · exact UInt32.ofNat_toNat
  · exact UInt64.ofNat_toNat

theorem toNat_number (width : Width) (n : Nat) :
    toNat (width.number n) = n % LittleEndian.limit width.size := by
  cases width
  · exact UInt8.toNat_ofNat'
  · exact UInt16.toNat_ofNat'
  · exact UInt32.toNat_ofNat'
  · exact UInt64.toNat_ofNat'

theorem number_value_digits {width : Width} (number : width.Number) :
    width.number (LittleEndian.value (LittleEndian.digits width.size (toNat number))) = number := by
  rw [LittleEndian.value_digits, Nat.mod_eq_of_lt (toNat_lt number), number_toNat]

theorem digits_number_value {width : Width} {bytes : List UInt8}
    (length : bytes.length = width.size) :
    LittleEndian.digits width.size (toNat (width.number (LittleEndian.value bytes))) = bytes := by
  have small : LittleEndian.value bytes < LittleEndian.limit width.size :=
    length ▸ LittleEndian.value_lt bytes
  rw [toNat_number, Nat.mod_eq_of_lt small, ← length, LittleEndian.digits_value]

/-- A byte is its own only digit. -/
theorem digits_byte (n : byte.Number) : LittleEndian.digits byte.size (toNat n) = [n] := by
  show [UInt8.ofNat (UInt8.toNat n)] = [n]
  rw [UInt8.ofNat_toNat]

end Width

end Dmi
