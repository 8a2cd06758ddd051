/-
**Reading a body.**

Reads at an explicit offset of the formatted section. A read succeeds when all of its bytes are in
the section, and a string number when it is zero or has a string. Main statements:

* `bytes_eq_ok_iff` — a read is answered exactly when its end is in the section;
* `length_of_bytes` — an answered read has the width asked for.
-/

import Dmi.Body.Basic
import Dmi.Error
import Dmi.LittleEndian
import Dmi.Text.Basic
import Dmi.Text.Utf8
import Dmi.Width

namespace Dmi.Body

/-- The `width` bytes at `offset`. -/
def bytes (body : Body) (offset width : Nat) : Except Error (List UInt8) :=
  if offset + width ≤ body.size then
    .ok ((body.formatted.drop offset).take width)
  else
    .error (.outOfRange offset width body.size)

/-- The integer at `offset`. -/
def number (body : Body) (width : Width) (offset : Nat) : Except Error width.Number :=
  match body.bytes offset width.size with
  | .ok bytes => .ok (width.number (LittleEndian.value bytes))
  | .error error => .error error

/-- The byte at `offset`. -/
def byte (body : Body) (offset : Nat) : Except Error UInt8 :=
  body.number .byte offset

/-- The string of a number. -/
def string (body : Body) (index : UInt8) : Except Error Text :=
  if index = 0 then .ok .notSpecified
  else
    match body.strings[index.toNat - 1]? with
    | some bytes => .ok (.value (Utf8.decode bytes))
    | none => .error (.badStringIndex index body.strings.length)

/-- The string whose number is the byte at `offset`. -/
def stringAt (body : Body) (offset : Nat) : Except Error Text :=
  match body.byte offset with
  | .ok index => body.string index
  | .error error => .error error

theorem bytes_eq_ok_iff (body : Body) (offset width : Nat) :
    (∃ found, body.bytes offset width = .ok found) ↔ offset + width ≤ body.size := by
  unfold bytes
  split <;> simp_all

theorem length_of_bytes {body : Body} {offset width : Nat} {found : List UInt8}
    (read : body.bytes offset width = .ok found) : found.length = width := by
  unfold bytes at read
  split at read
  · cases read
    simp only [Body.size] at *
    simp only [List.length_take, List.length_drop]
    omega
  · cases read

end Dmi.Body
