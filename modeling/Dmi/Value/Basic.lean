/-
**Field values.**

What the fields of a structure hold, before a record gives them names.
-/

import Dmi.Text.Basic
import Dmi.Width

namespace Dmi

/-- The value of one field. -/
inductive Value where
  | number (width : Width) (n : width.Number)
  | text (text : Text)
  | bytes (bytes : List UInt8)
  /-- The values of a record inside the structure. -/
  | record (values : List Value)
  /-- The items of a counted list. -/
  | list (items : List Value)

namespace Value

/-- The value of a one-byte field. -/
abbrev byte (n : UInt8) : Value := number .byte n

/-- The value of a two-byte field. -/
abbrev word (n : UInt16) : Value := number .word n

/-- The value of a four-byte field. -/
abbrev dword (n : UInt32) : Value := number .dword n

/-- The value of an eight-byte field. -/
abbrev qword (n : UInt64) : Value := number .qword n

/-- The machine word of an integer value of the width. -/
def number? : (width : Width) → Value → Option width.Number
  | .byte, .number .byte n => some n
  | .word, .number .word n => some n
  | .dword, .number .dword n => some n
  | .qword, .number .qword n => some n
  | _, _ => none

end Value

end Dmi
