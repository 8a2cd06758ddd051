/-
**Writing a body.**

Fields are appended to the formatted section. A text is written as its number in the string list,
which grows by the texts that are not in it yet, so that equal texts share a number. `seal` puts the
header in front. Main statement:

* `seal_eq_ok_iff` — a body becomes a structure exactly when its size fits the length byte.
-/

import Dmi.Body.Read
import Dmi.Structure.Basic

namespace Dmi

/-- The body with a string at the end of its list, unless the list has it already. -/
def Body.intern (body : Body) (string : List UInt8) : Body :=
  if string ∈ body.strings then body else { body with strings := body.strings ++ [string] }

/-- A body under construction. What was appended before a failure stays. -/
abbrev Draft := EStateM Error Body

namespace Draft

/-- Appends bytes. -/
def bytes (bytes : List UInt8) : Draft Unit := fun body =>
  .ok () { body with formatted := body.formatted ++ bytes }

/-- Fails. -/
def fail {α : Type} (error : Error) : Draft α := fun body =>
  .error error body

/-- Appends an integer. -/
def number (width : Width) (n : width.Number) : Draft Unit :=
  bytes (LittleEndian.digits width.size (Width.toNat n))

/-- Appends a byte. -/
def byte (n : UInt8) : Draft Unit :=
  bytes [n]

/-- Appends zero bytes. -/
def zeros (count : Nat) : Draft Unit :=
  bytes (List.replicate count 0)

/-- Appends the number of a string, which joins the list if it is not in it. -/
def string (string : List UInt8) : Draft Unit := fun body =>
  let body := body.intern string
  let place := body.strings.idxOf string + 1
  if place < 256 then byte (UInt8.ofNat place) body
  else .error (.misuse .tooManyStrings) body

/-- Appends the number of a text. Texts that are not specified or empty have the number 0. -/
def text : Text → Draft Unit
  | .notSpecified => byte 0
  | .badIndex _ => fail (.misuse .badIndexWritten)
  | .value text => if text = "" then byte 0 else string (Utf8.encode text)

end Draft

/-- The greatest size of a structure without its strings. -/
def Structure.maxSize : Nat := 255

/-- The structure with this body, its length byte set to the real size. -/
def Body.seal (body : Body) (type : TypeCode) (handle : UInt16) : Except Error Structure :=
  let size := body.size + Header.size
  if Structure.maxSize < size then .error (.misuse .structureTooLong)
  else .ok ⟨⟨type, UInt8.ofNat size, handle⟩, body⟩

theorem Body.seal_eq_ok_iff (body : Body) (type : TypeCode) (handle : UInt16) :
    (∃ s, body.seal type handle = .ok s) ↔ body.size ≤ 251 := by
  simp only [Body.seal, Structure.maxSize, Header.size]
  by_cases tooLong : 255 < body.size + 4
  · simp [tooLong]
    omega
  · simp [tooLong]
    omega

end Dmi
